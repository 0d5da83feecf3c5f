import LotusAdvise.AdvisorCockpit.Acknowledgements

/-! # Replayed acknowledgements

A call that repeats an accepted one is answered from the acknowledgement that the item has by
then, not from the one that was accepted. So the answer is the first one exactly as long as
no other acknowledgement of the item, under another key, has replaced it. A key that is not in
its bounded form is never found again.
-/

namespace LotusAdvise.AdvisorCockpit

open Proposals Runs

/-- What makes two calls the same request. -/
structure AcknowledgementRequest where
  idempotencyKey : String
  actionItemId : String
  payload : ℕ × String × Option String
deriving DecidableEq

/-- The request of a call with a valid key. -/
def AcknowledgementCall.request? (call : AcknowledgementCall) : Option AcknowledgementRequest :=
  (requireProposalIdempotencyKey (some call.idempotencyKey)).toOption.map fun idempotencyKey =>
    ⟨idempotencyKey, call.action.actionItemId, call.payload.actionItemVersion,
      call.payload.acknowledgedBy, call.payload.acknowledgementNote⟩

/-- The store, and the accepted requests with the acknowledgements that answered them. -/
structure AcknowledgementLog where
  store : AcknowledgementDicts
  accepted : List (AcknowledgementRequest × CockpitAcknowledgementState) := []

namespace AcknowledgementLog

variable (services : CockpitServices) (log : AcknowledgementLog) (call : AcknowledgementCall)

/-- What a call adds to the accepted requests. -/
def entries (answer : Except ProposalError AdvisorCockpitAcknowledgeResponse) :
    List (AcknowledgementRequest × CockpitAcknowledgementState) :=
  (call.request?.bind fun request =>
    answer.toOption.map fun response => (request, response.acknowledgement)).toList

def acknowledge : Option AcknowledgementLog :=
  some
    { store := (acknowledgeCockpitAction services call log.store).2
      accepted := log.accepted ++
        entries call (acknowledgeCockpitAction services call log.store).1 }

/-- The acknowledgement that answered the request first. -/
def first? : Option CockpitAcknowledgementState :=
  call.request?.bind fun request =>
    (log.accepted.find? fun entry => entry.1 = request).map Prod.snd

/-- A call that repeats an accepted one is answered as a replay, with who, when and the note of the
first answer. -/
def ReplaysFirst (_ : AcknowledgementLog) : Prop :=
  ∀ first ∈ log.first? call, ∃ response,
    (acknowledgeCockpitAction services call log.store).1 = .ok response ∧
      response.replayed = true ∧ detailsOfState response.acknowledgement = detailsOfState first

instance (log' : AcknowledgementLog) : Decidable (log.ReplaysFirst services call log') :=
  decidable_of_iff (∀ first ∈ log.first? call,
    ∃ response ∈ (acknowledgeCockpitAction services call log.store).1.toOption,
      response.replayed = true ∧
        detailsOfState response.acknowledgement = detailsOfState first) <| by
    simp only [ReplaysFirst, Option.mem_def, toOption_eq_some]

/-- The acknowledgement by now of the item that a key was stored for. -/
def keyed (idempotencyKey : String) : Option CockpitAcknowledgementRecord :=
  (log.store.idempotency idempotencyKey).bind fun replayed =>
    log.store.getCockpitAcknowledgement replayed.actionItemId

/-- When a call repeats an accepted one, the action is listed in the version of the request, the key
is in its bounded form, and no acknowledgement with other details has replaced the first one. -/
def Undisturbed (_ : AcknowledgementLog) : Prop :=
  ∀ request ∈ call.request?, ∀ first ∈ log.first? call,
    call.payload.actionItemVersion = call.action.actionItemVersion ∧
      boundedReference services request.idempotencyKey = request.idempotencyKey ∧
      ∃ record ∈ log.keyed request.idempotencyKey, detailsOfRecord record = detailsOfState first

instance (log' : AcknowledgementLog) : Decidable (log.Undisturbed services call log') := by
  unfold Undisturbed
  infer_instance

/-- The identifier of every acknowledgement of an item. -/
def acknowledgementIdOf (actionItemId : String) : String :=
  boundedReference services (boundedReference services ("ack_" ++ actionItemId))

/-- The hash that a request is stored with. -/
def hashOf (request : AcknowledgementRequest) : String :=
  acknowledgementRequestHash services request.actionItemId
    ⟨request.payload.1, request.payload.2.1, request.payload.2.2⟩

/-- Keys are bounded and lead to an acknowledgement; the identifier of an acknowledgement is that of
its item; the key of an accepted request is stored with its hash. -/
structure Consistent : Prop where
  bounded : ∀ key replayed, log.store.idempotency key = some replayed →
    boundedReference services key = key
  stored : ∀ key replayed, log.store.idempotency key = some replayed →
    ∃ record, log.store.acknowledgements replayed.actionItemId = some record
  identified : ∀ item record, log.store.acknowledgements item = some record →
    record.acknowledgementId = acknowledgementIdOf services item
  accepted : ∀ request state, (request, state) ∈ log.accepted →
    boundedReference services request.idempotencyKey = request.idempotencyKey →
    ∃ replayed, log.store.idempotency request.idempotencyKey = some replayed ∧
      replayed.requestHash = hashOf services request ∧
      ∃ record : CockpitAcknowledgementRecord,
        record.acknowledgementId = acknowledgementIdOf services replayed.actionItemId ∧
        acknowledgementState services record = .ok state

end AcknowledgementLog

section Calls

variable (services : CockpitServices) (call : AcknowledgementCall) (store : AcknowledgementDicts)

/-- Everything a call can be: its answer and the store after it. -/
inductive Acknowledges :
    Except ProposalError AdvisorCockpitAcknowledgeResponse × AcknowledgementDicts → Prop where
  | refused (error : ProposalError) : Acknowledges (.error error, store)
  | replayed (key : String) (replayed : CockpitAcknowledgementIdempotencyRecord)
    (required : requireProposalIdempotencyKey (some call.idempotencyKey) = .ok key)
    (version : call.payload.actionItemVersion = call.action.actionItemVersion)
    (found : store.idempotency key = some replayed) :
    Acknowledges (acknowledgementReplayResponse services call store replayed
      (acknowledgementRequestHash services call.action.actionItemId call.payload), store)
  | aliased (key : String) (record : CockpitAcknowledgementRecord)
    (existing : CockpitAcknowledgementIdempotencyRecord)
    (required : requireProposalIdempotencyKey (some call.idempotencyKey) = .ok key)
    (absent : store.idempotency key = none)
    (found : store.idempotency (boundedReference services key) = some existing) :
    Acknowledges (acknowledgementResponse services call.action record false, store)
  | saved (key : String) (record : CockpitAcknowledgementRecord)
    (required : requireProposalIdempotencyKey (some call.idempotencyKey) = .ok key)
    (absent : store.idempotency (boundedReference services key) = none)
    (built : acknowledgementRecord services call key
      (acknowledgementRequestHash services call.action.actionItemId call.payload) = .ok record) :
    Acknowledges (acknowledgementResponse services call.action record false,
      { acknowledgements := Function.update store.acknowledgements record.actionItemId (some record)
        idempotency := Function.update store.idempotency (boundedReference services key)
          (some (acknowledgementIdempotency services call record key
            (acknowledgementRequestHash services call.action.actionItemId call.payload))) })

theorem acknowledges : Acknowledges services call store
    (acknowledgeCockpitAction services call store) := by
  unfold acknowledgeCockpitAction
  split
  · exact .refused _
  · next key hkey =>
    split
    · exact .refused _
    · next hversion =>
      split
      · next replayed hfound =>
        exact .replayed key replayed hkey (not_not.mp hversion) hfound
      · next habsent =>
        unfold acknowledgeNew
        split
        · exact .refused _
        · next record hrecord =>
          split
          · exact .refused _
          · next store' hsave =>
            rw [AcknowledgementDicts.saveCockpitAcknowledgementWithIdempotency] at hsave
            split at hsave
            · next existing hexisting =>
              split at hsave
              · cases hsave
                exact .aliased key record existing hkey habsent hexisting
              · cases hsave
            · next hnew =>
              cases hsave
              exact .saved key record hkey hnew hrecord

end Calls

/-- Digests are short words, as hexadecimal digests are. -/
def PlainDigests (services : CockpitServices) : Prop :=
  ∀ json, (services.sha256 json).toList.length ≤ 64 ∧
    ∀ c ∈ (services.sha256 json).toList, Text.isSpace c = false

section Records

variable {services : CockpitServices} {call : AcknowledgementCall}
  {record : CockpitAcknowledgementRecord} {key requestHash : String}

theorem boundedReference_requestHash (hdigest : PlainDigests services) (actionItemId : String)
    (payload : AdvisorCockpitAcknowledgeRequest) :
    boundedReference services (acknowledgementRequestHash services actionItemId payload) =
      acknowledgementRequestHash services actionItemId payload := by
  obtain ⟨hlength, hplain⟩ := hdigest _
  have hlength' : "sha256:".toList.length = 7 := by decide
  have hmark : ("sha256:".toList.all fun c => !Text.isSpace c) = true := by decide
  simp only [List.all_eq_true, Bool.not_eq_true'] at hmark
  have hword : ∀ c ∈ (acknowledgementRequestHash services actionItemId payload).toList,
      Text.isSpace c = false := by
    intro c hc
    rw [acknowledgementRequestHash, Services.hashCanonicalPayload, String.toList_append,
      List.mem_append] at hc
    exact hc.elim (hmark c) (hplain c)
  rw [boundedReference_of_length, normalizedText, collapsed_of_forall hword, String.ofList_toList]
  rw [acknowledgementRequestHash, Services.hashCanonicalPayload, String.toList_append,
    List.length_append, hlength']
  exact (Nat.add_le_add_left hlength 7).trans (by decide)

theorem boundedReference_listed (call : AcknowledgementCall) :
    boundedReference services call.action.actionItemId = call.action.actionItemId := by
  rw [boundedReference_of_length call.listed.2, call.listed.1]

theorem identity_of_acknowledgementRecord
    (h : acknowledgementRecord services call key requestHash = .ok record) :
    record.actionItemId = call.action.actionItemId ∧
      record.acknowledgementId =
        AcknowledgementLog.acknowledgementIdOf services call.action.actionItemId := by
  simp only [acknowledgementRecord, bind_eq_ok] at h
  obtain ⟨_, _, _, _, _, _, h⟩ := h
  obtain rfl := Except.ok.inj h
  exact ⟨boundedReference_listed call, rfl⟩

end Records

namespace AcknowledgementLog

variable {services : CockpitServices} {log log' : AcknowledgementLog} {call : AcknowledgementCall}
  {request : AcknowledgementRequest} {first : CockpitAcknowledgementState}

theorem request_of_required {key : String}
    (h : requireProposalIdempotencyKey (some call.idempotencyKey) = .ok key) :
    call.request? = some ⟨key, call.action.actionItemId, call.payload.actionItemVersion,
      call.payload.acknowledgedBy, call.payload.acknowledgementNote⟩ := by
  rw [AcknowledgementCall.request?, h]
  rfl

/-- What an answer adds to the accepted requests. -/
theorem mem_entries {key : String} {answer : Except ProposalError AdvisorCockpitAcknowledgeResponse}
    (hkey : requireProposalIdempotencyKey (some call.idempotencyKey) = .ok key)
    (h : (request, first) ∈ entries call answer) :
    request.idempotencyKey = key ∧
      hashOf services request =
        acknowledgementRequestHash services call.action.actionItemId call.payload ∧
      ∃ response, answer = .ok response ∧ response.acknowledgement = first := by
  rw [entries, request_of_required hkey, Option.bind_some, Option.mem_toList,
    Option.map_eq_some_iff] at h
  obtain ⟨response, hanswer, heq⟩ := h
  obtain ⟨rfl, rfl⟩ := Prod.mk.inj heq
  exact ⟨rfl, rfl, response, toOption_eq_some.mp hanswer, rfl⟩

/-- The acknowledgement of the request that was accepted first was accepted. -/
theorem mem_accepted_of_first (hrequest : call.request? = some request)
    (h : log.first? call = some first) : (request, first) ∈ log.accepted := by
  rw [first?, hrequest, Option.bind_some, Option.map_eq_some_iff] at h
  obtain ⟨entry, hentry, rfl⟩ := h
  have hsame : entry.1 = request := by simpa using List.find?_some hentry
  rw [← hsame]
  exact List.mem_of_find?_eq_some hentry

theorem Consistent.replay (h : log.Consistent services) {key : String}
    {replayed : CockpitAcknowledgementIdempotencyRecord}
    (hkey : requireProposalIdempotencyKey (some call.idempotencyKey) = .ok key)
    (hfound : log.store.idempotency key = some replayed)
    (hmem : (request, first) ∈ entries call (acknowledgementReplayResponse services call log.store
      replayed (acknowledgementRequestHash services call.action.actionItemId call.payload))) :
    ∃ replayed, log.store.idempotency request.idempotencyKey = some replayed ∧
      replayed.requestHash = hashOf services request ∧
      ∃ record : CockpitAcknowledgementRecord,
        record.acknowledgementId = acknowledgementIdOf services replayed.actionItemId ∧
        acknowledgementState services record = .ok first := by
  obtain ⟨rfl, hhash, response, hanswer, rfl⟩ := @mem_entries services _ _ _ _ _ hkey hmem
  unfold acknowledgementReplayResponse at hanswer
  split at hanswer
  · cases hanswer
  · next hsame =>
    split at hanswer
    · cases hanswer
    · next record hrecord =>
      refine ⟨replayed, hfound, (not_not.mp hsame).trans hhash.symm, record, ?_, ?_⟩
      · exact h.identified _ _ hrecord
      · exact (acknowledgementResponse_eq_ok hanswer).1

@[simp] theorem entries_error {error : ProposalError} : entries call (.error error) = [] := by
  rw [entries]
  cases call.request? <;> rfl

/-- Every call keeps the log consistent. -/
theorem Consistent.step (hdigest : PlainDigests services) (h : log.Consistent services)
    (hstep : log.acknowledge services call = some log') : log'.Consistent services := by
  obtain rfl := Option.some.inj hstep
  generalize hresult : acknowledgeCockpitAction services call log.store = result
  have hcall := acknowledges services call log.store
  rw [hresult] at hcall
  cases hcall with
  | refused error =>
    rw [entries_error, List.append_nil]
    exact ⟨h.bounded, h.stored, h.identified, h.accepted⟩
  | replayed key replayed required version found =>
    refine ⟨h.bounded, h.stored, h.identified, fun request state hmem hbounded => ?_⟩
    rcases List.mem_append.mp hmem with hmem | hmem
    · exact h.accepted request state hmem hbounded
    · exact h.replay required found hmem
  | aliased key record existing required absent found =>
    refine ⟨h.bounded, h.stored, h.identified, fun request state hmem hbounded => ?_⟩
    rcases List.mem_append.mp hmem with hmem | hmem
    · exact h.accepted request state hmem hbounded
    · -- the key is not in its bounded form: under that form it would have been found
      obtain ⟨rfl, -⟩ := @mem_entries services _ _ _ _ _ required hmem
      rw [hbounded, absent] at found
      cases found
  | saved key record required absent built =>
    obtain ⟨hitem, hid⟩ := identity_of_acknowledgementRecord built
    refine ⟨fun other replayed hfound => ?_, fun other replayed hfound => ?_,
      fun item other hfound => ?_, fun request state hmem hbounded => ?_⟩
    · dsimp only at hfound
      rw [Function.update_apply] at hfound
      split at hfound
      · next heq =>
        rw [heq]
        exact boundedReference_boundedReference (length_of_require required)
      · exact h.bounded other replayed hfound
    · dsimp only at hfound ⊢
      rw [Function.update_apply] at hfound
      rw [Function.update_apply]
      split
      · exact ⟨record, rfl⟩
      · next hother =>
        split at hfound
        · obtain rfl := Option.some.inj hfound
          exact absurd ((boundedReference_listed call).trans hitem.symm) hother
        · exact h.stored other replayed hfound
    · dsimp only at hfound
      rw [Function.update_apply] at hfound
      split at hfound
      · next heq =>
        obtain rfl := Option.some.inj hfound
        rw [heq, hid, hitem]
      · exact h.identified item other hfound
    · dsimp only
      rcases List.mem_append.mp hmem with hmem | hmem
      · obtain ⟨replayed, hfound, hhash, hrecord⟩ := h.accepted request state hmem hbounded
        refine ⟨replayed, ?_, hhash, hrecord⟩
        have hne : request.idempotencyKey ≠ boundedReference services key := by
          intro heq
          rw [← heq, hfound] at absent
          cases absent
        rw [Function.update_of_ne hne, hfound]
      · obtain ⟨rfl, hhash, response, hanswer, rfl⟩ := @mem_entries services _ _ _ _ _ required hmem
        refine ⟨_, by rw [hbounded, Function.update_self], ?_, record, ?_, ?_⟩
        · exact (boundedReference_requestHash hdigest _ _).trans hhash.symm
        · rw [hid]
          exact congrArg _ (boundedReference_listed call).symm
        · exact (acknowledgementResponse_eq_ok hanswer).1

theorem consistent_empty : (⟨.empty, []⟩ : AcknowledgementLog).Consistent services where
  bounded _ _ h := by cases h
  stored _ _ h := by cases h
  identified _ _ h := by cases h
  accepted _ _ h := by cases h

/-- A repeated call is answered with the first acknowledgement exactly when it was not disturbed. -/
theorem Consistent.replaysFirst_iff (h : log.Consistent services) :
    log.ReplaysFirst services call log' ↔ log.Undisturbed services call log' := by
  constructor
  · intro hreplays request hrequest first hfirst
    obtain ⟨response, hanswer, hreplayed, hdetails⟩ := hreplays first hfirst
    generalize hresult : acknowledgeCockpitAction services call log.store = result at hanswer
    have hcall := acknowledges services call log.store
    rw [hresult] at hcall
    cases hcall with
    | refused error => cases hanswer
    | replayed key replayed required version found =>
      rw [request_of_required required] at hrequest
      obtain rfl := Option.some.inj hrequest
      refine ⟨version, h.bounded key replayed found, ?_⟩
      dsimp only at hanswer
      unfold acknowledgementReplayResponse at hanswer
      split at hanswer
      · cases hanswer
      · split at hanswer
        · cases hanswer
        · next record hrecord =>
          refine ⟨record, ?_, ?_⟩
          · rw [keyed, found]
            exact hrecord
          · rw [← details_of_acknowledgementState (acknowledgementResponse_eq_ok hanswer).1,
              hdetails]
    | aliased key record existing required absent found =>
      rw [(acknowledgementResponse_eq_ok hanswer).2] at hreplayed
      cases hreplayed
    | saved key record required absent built =>
      rw [(acknowledgementResponse_eq_ok hanswer).2] at hreplayed
      cases hreplayed
  · intro hundisturbed first hfirst
    obtain ⟨request, hrequest⟩ : ∃ request, call.request? = some request := by
      rw [first?] at hfirst
      exact (Option.bind_eq_some_iff.mp hfirst).imp fun _ h => h.1
    obtain ⟨hversion, hbounded, record, hrecord, hdetails⟩ :=
      hundisturbed request hrequest first hfirst
    obtain ⟨replayed, hfound, hhash, earlier, hid, hstate⟩ :=
      h.accepted request first (mem_accepted_of_first hrequest hfirst) hbounded
    obtain ⟨key, hkey, rfl⟩ := Option.map_eq_some_iff.mp hrequest
    rw [toOption_eq_some] at hkey
    have hrow : log.store.getCockpitAcknowledgement replayed.actionItemId = some record := by
      rw [keyed, hfound] at hrecord
      exact hrecord
    -- the row shows what the first answer showed, so it passes the same checks
    have hshown : acknowledgementState services record = .ok first := by
      rw [acknowledgementState_congr ((h.identified _ _ hrow).trans hid.symm)
        (hdetails.trans (details_of_acknowledgementState hstate)), hstate]
    have hsame : replayed.requestHash =
        acknowledgementRequestHash services call.action.actionItemId call.payload := hhash
    have hanswer : (acknowledgeCockpitAction services call log.store).1 =
        acknowledgementResponse services call.action record true := by
      rw [acknowledgeCockpitAction, hkey]
      dsimp only
      rw [if_neg (not_not.mpr hversion), hfound]
      dsimp only
      rw [acknowledgementReplayResponse, if_neg (not_not.mpr hsame), hrow]
    obtain ⟨response, hresponse⟩ : ∃ response,
        acknowledgementResponse services call.action record true = .ok response := by
      rw [acknowledgementResponse, hshown]
      exact ⟨_, rfl⟩
    obtain ⟨hstate', hreplayed⟩ := acknowledgementResponse_eq_ok hresponse
    refine ⟨response, hanswer.trans hresponse, hreplayed, ?_⟩
    rw [Except.ok.inj (hstate'.symm.trans hshown)]

end AcknowledgementLog

/-- In a sequence of calls, every call that repeats an accepted one is answered as a replay with the
acknowledgement of the first answer exactly when none of them was disturbed: the action is listed in
the same version, the key is in its bounded form, and the acknowledgement of the item still has the
details of the first answer. -/
theorem acknowledgement_replay_iff (services : CockpitServices) (hdigest : PlainDigests services)
    (calls : List AcknowledgementCall) :
    EveryStep (AcknowledgementLog.acknowledge services) (AcknowledgementLog.ReplaysFirst services)
        ⟨.empty, []⟩ calls ↔
      EveryStep (AcknowledgementLog.acknowledge services) (AcknowledgementLog.Undisturbed services)
        ⟨.empty, []⟩ calls :=
  everyStep_iff_of_invariant (fun _ _ _ h hstep _ => h.step hdigest hstep)
    (fun _ _ _ h _ => h.replaysFirst_iff) AcknowledgementLog.consistent_empty

namespace Sample

/-- Requests are told apart by who acknowledges. -/
def cockpitServices : CockpitServices where
  toServices := { Proposals.Sample.services with
    sha256 := fun json => match json with
      | .obj fields =>
        if JsonObject.get fields "acknowledged_by" = .str "advisor_2" then "2" else "1"
      | _ => "0" }
  textDigest _ := List.replicate 64 0
  lower value := value
  lowerAlphanumeric _ := none

theorem plainDigests : PlainDigests cockpitServices := by
  intro json
  have hword : ∀ digest ∈ ["0", "1", "2"], digest.toList.length ≤ 64 ∧
      (digest.toList.all fun c => !Text.isSpace c) = true := by decide
  simp only [List.all_eq_true, Bool.not_eq_true'] at hword
  apply hword
  dsimp only [cockpitServices]
  split
  · split <;> simp
  · simp

def policyReview : AdvisoryActionItem where
  actionItemId := "aci_1"
  actionItemVersion := 1
  actionFamily := .policyReviewRequired
  status := .pendingReview
  priority := .high
  ownerRole := .advisor
  ownerRoleLabel := "Advisor"
  owningSystem := lotusAdviseSourceSystem
  title := "Review"
  nextRequiredAction := "Review"
  reasonCodes := []
  clientRef := none
  householdRef := none
  portfolioId := none
  proposalId := none
  workspaceId := none
  memoId := none
  policyEvaluationId := none
  reportRef := none
  executionRef := none
  dueAt := none
  slaAgeBand := .notApplicable
  materialityRank := 0
  sourceTimestamp := none
  evidenceRefs := []
  sourceReadinessGaps := []
  dependencyReadiness := []
  lineageRefs := []
  unsupportedCapabilities := []
  correlationId := none

/-- The action is acknowledged at the given minute. -/
def acknowledgeBy (actorId idempotencyKey : String) (minute : ℕ) : AcknowledgementCall where
  action := policyReview
  payload := ⟨1, actorId, none⟩
  idempotencyKey := idempotencyKey
  correlationId := none
  principal := ⟨actorId, "ADVISOR", "tenant_sg", "SG", "corr_1", "workbench", none, none⟩
  now := Proposals.Sample.clock minute
  listed := by decide +kernel

end Sample

open Sample in
/-- After another advisor acknowledged the action, a repeated call is answered with the other
advisor's acknowledgement. -/
theorem acknowledgement_of_another :
    ¬ EveryStep (AcknowledgementLog.acknowledge cockpitServices)
      (AcknowledgementLog.ReplaysFirst cockpitServices) ⟨.empty, []⟩
      [acknowledgeBy "advisor_1" "key-1" 0, acknowledgeBy "advisor_2" "key-2" 1,
        acknowledgeBy "advisor_1" "key-1" 2] := by
  decide +kernel

open Sample in
/-- The theorem at a call that is repeated at once. -/
theorem acknowledgement_replay_single :
    EveryStep (AcknowledgementLog.acknowledge cockpitServices)
      (AcknowledgementLog.ReplaysFirst cockpitServices) ⟨.empty, []⟩
      [acknowledgeBy "advisor_1" "key-1" 0, acknowledgeBy "advisor_1" "key-1" 1] :=
  (acknowledgement_replay_iff cockpitServices plainDigests _).mpr (by decide +kernel)

end LotusAdvise.AdvisorCockpit

import LotusAdvise.Proposals.InMemory

/-! # Redelivered execution updates

A downstream system may deliver an execution update again at any later time, and expects
it to be taken note of without effect. The check against the latest handoff comes before
the search for the update, so this depends on what has happened in between.
-/

namespace LotusAdvise.Proposals

open Interleaving Runs

/-- The command raises no error and changes no proposal, event or approval. -/
def TakenWithoutEffect (config : ServiceConfig) (services : Services) (store : InMemoryStore)
    (call : Call) : Prop :=
  ∃ store' response,
    (inMemoryLifecycle config services).execute store call = (store', .ok response) ∧
      store'.proposals = store.proposals ∧ store'.events = store.events ∧
      store'.approvals = store.approvals

/-- A value that a response accepts as an optional text. -/
def IsOptionalText (value : Json) : Prop := value = .null ∨ ∃ text, value = .str text

/-- The update answers the latest handoff, the newest event of its key has its hash or none, and the
status of the execution can be reported. -/
structure Redeliverable (services : Services) (store : InMemoryStore) (proposalId : String)
    (payload : ProposalExecutionUpdateRequest) : Prop where
  handoff : AnswersHandoff inMemoryRepository store (.executionUpdate proposalId payload)
  hash : ∀ metadata ∈ newestSearched inMemoryRepository store (.executionUpdate proposalId payload)
      (buildExecutionUpdateIdempotencyKey payload),
    HashAgrees metadata (services.hashCanonicalPayload payload.dump)
  status : ∀ event ∈ latestExecutionStatusEvent (store.events proposalId),
    IsOptionalText (externalExecutionId event)

theorem optionalText_isOk (field : String) {value : Json} :
    (∃ text, optionalText field value = .ok text) ↔ IsOptionalText value := by
  constructor
  · rintro ⟨text, h⟩
    cases value with
    | null => exact .inl rfl
    | str s => exact .inr ⟨s, rfl⟩
    | _ => cases h
  · rintro (rfl | ⟨text, rfl⟩)
    · exact ⟨none, rfl⟩
    · exact ⟨some text, rfl⟩

/-- The execution status can be built when the handoff event and the latest status event hold
texts where the response wants texts. -/
theorem buildExecutionStatusResponse_isOk {proposal : ProposalRecord}
    {events : List ProposalWorkflowEventRecord} {handoffEvent : ProposalWorkflowEventRecord}
    {requestId provider : String}
    (hlatest : latestExecutionRequestedEvent events = some handoffEvent)
    (hrequest : JsonObject.get handoffEvent.reasonJson "execution_request_id" = .str requestId)
    (hprovider : JsonObject.get handoffEvent.reasonJson "execution_provider" = .str provider) :
    (∃ response, buildExecutionStatusResponse proposal events = .ok response) ↔
      ∀ event ∈ latestExecutionStatusEvent events, IsOptionalText (externalExecutionId event) := by
  rcases hstatus : latestExecutionStatusEvent events with _ | event
  · simp [buildExecutionStatusResponse, hlatest, hstatus, executionStatusProjection,
      requestedEventProjection, hrequest, hprovider, optionalText, bind, Except.bind, pure,
      Except.pure]
  · simp only [buildExecutionStatusResponse, hlatest, hstatus, executionStatusProjection,
      requestedEventProjection, statusEventProjection, Option.isSome_some, if_true, hrequest,
      hprovider, Option.mem_def, Option.some.injEq, forall_eq']
    rw [← optionalText_isOk "external_execution_id"]
    simp only [bind_eq_ok]
    constructor
    · rintro ⟨response, _, _, _, _, text, htext, _⟩
      exact ⟨text, htext⟩
    · rintro ⟨text, htext⟩
      exact ⟨_, some requestId, rfl, some provider, rfl, text, htext, rfl⟩

section History

variable {config : ServiceConfig} {services : Services} {store store' : InMemoryStore}
  {proposalId : String} {payload : ProposalExecutionUpdateRequest} {calls : List Call}

/-- The update is on record: an event of the proposal carries its key. -/
def OnRecord (store : InMemoryStore) (proposalId : String)
    (payload : ProposalExecutionUpdateRequest) : Prop :=
  (store.proposals proposalId).isSome ∧ ∃ event ∈ store.events proposalId,
    Carries event.reasonJson (buildExecutionUpdateIdempotencyKey payload)

theorem OnRecord.newestSearched (h : OnRecord store proposalId payload) :
    ∃ metadata, newestSearched inMemoryRepository store (.executionUpdate proposalId payload)
      (buildExecutionUpdateIdempotencyKey payload) = some metadata := by
  rw [← Option.isSome_iff_exists, Option.isSome_iff_ne_none]
  obtain ⟨_, event, hevent, hcarries⟩ := h
  intro hnone
  exact (newestCarrying_eq_none _ _).mp hnone event.reasonJson (List.mem_map_of_mem hevent) hcarries

theorem OnRecord.accept {call : Call} (h : OnRecord store proposalId payload)
    (haccept : (inMemoryLifecycle config services).accept store call = some store') :
    OnRecord store' proposalId payload := by
  obtain ⟨hp, event, hevent, hcarries⟩ := h
  obtain ⟨r, hexec⟩ := Protocol.accept_eq_some.mp haccept
  have hkept : ((inMemoryLifecycle config services).execute store call).1 = store' := by rw [hexec]
  rw [← hkept]
  exact Protocol.execute_invariant
    (I := fun store : InMemoryStore => (store.proposals proposalId).isSome ∧
      ∃ event ∈ store.events proposalId,
        Carries event.reasonJson (buildExecutionUpdateIdempotencyKey payload))
    (fun _ _ _ ⟨hp, event, hevent, hcarries⟩ hw =>
      ⟨InMemoryStore.perform_keeps_proposal hw hp, event,
        (InMemoryStore.perform_events_prefix hw proposalId).subset hevent, hcarries⟩)
    ⟨hp, event, hevent, hcarries⟩

/-- An accepted update is on record, whether it was recorded now or found. -/
theorem onRecord_of_accept {first : Generated} (hids : IdsMatch store)
    (haccept : (inMemoryLifecycle config services).accept store
      ⟨.executionUpdate proposalId payload, first⟩ = some store') :
    OnRecord store' proposalId payload := by
  cases accepted_of_accept hids haccept with
  | replay decided =>
    have decided : decideCommand config services inMemoryRepository store
      ⟨.executionUpdate proposalId payload, first⟩ = _ := decided
    obtain ⟨_, hc⟩ | ⟨key, hash, metadata, hfound⟩ := replays_of_decide decided
    · cases hc
    · obtain ⟨_, proposal, hid, hp⟩ := hfound.stored
      cases hid
      cases hfound.searched
      obtain ⟨hmem, hcarries⟩ := newestCarrying_some hfound.newest
      obtain ⟨event, hevent, rfl⟩ := List.mem_map.mp hmem
      exact ⟨Option.isSome_iff_exists.mpr ⟨proposal, hp⟩, event, hevent, hcarries⟩
  | create command => cases command
  | version command => cases command
  | @move proposal next event approval _ command _ found records keyed =>
    obtain rfl : proposalId = proposal.proposalId := Option.some.inj command
    obtain ⟨hash, _, hwritten, _⟩ := (keyed _ rfl).written
    refine ⟨?_, event, ?_, hwritten.carries⟩
    · rw [InMemoryStore.transitioned_proposals, records.nextId, Function.update_self]
      rfl
    · simp [records.eventProposalId]

theorem onRecord_of_run {first : Generated} {before after : List Call}
    (hrun : run (inMemoryLifecycle config services).accept .empty
      (before ++ ⟨.executionUpdate proposalId payload, first⟩ :: after) = some store) :
    OnRecord store proposalId payload := by
  obtain ⟨mid, hbefore, hrest⟩ := run_append_eq_some.mp hrun
  obtain ⟨next, haccept, hafter⟩ := run_cons_eq_some.mp hrest
  refine invariant_of_step (I := fun store => OnRecord store proposalId payload)
    (fun _ _ _ h => h.accept) ?_ hafter
  exact onRecord_of_accept (idsMatch_of_run hbefore) haccept

/-- An update that is on record is never recorded again; it is answered when the checks before and
after the search pass. -/
theorem takenWithoutEffect_iff (h : OnRecord store proposalId payload) (again : Generated) :
    TakenWithoutEffect config services store ⟨.executionUpdate proposalId payload, again⟩ ↔
      Redeliverable services store proposalId payload := by
  obtain ⟨metadata, hnewest⟩ := h.newestSearched
  have hkey := presentKey_some (executionUpdateKey_ne_empty payload)
  have hsearched := hnewest
  rw [Proposals.newestSearched, searchedMetadata, newestCarrying_map, Option.map_eq_some_iff]
    at hsearched
  obtain ⟨event, hevent, rfl⟩ := hsearched
  constructor
  · rintro ⟨store', response, hexec, _⟩
    rcases Protocol.execute_ok_cases hexec with ⟨hd, _⟩ | ⟨w, rest, hd, _⟩
    · obtain ⟨proposal, handoffEvent, _, hlatest, hvalid, ⟨found, hit, hanswer⟩ | ⟨_, hout⟩⟩ :=
        recordProposalExecutionUpdate_eq_ok hd
      · have hids := validateExecutionUpdateHandoffIdentity_eq_ok.mp hvalid
        obtain ⟨hfound, hagrees⟩ :=
          (findReplayedRecord_eq_some hkey).mp (mapError_eq_ok.mp hit)
        obtain rfl : event = found := Option.some.inj (hevent.symm.trans hfound)
        simp only [bind_eq_ok] at hanswer
        obtain ⟨status, hstatus, _⟩ := hanswer
        refine ⟨⟨handoffEvent, hlatest, hids⟩, ?_, ?_⟩
        · rw [hnewest]
          rintro _ ⟨⟩
          exact hagrees
        · exact (buildExecutionStatusResponse_isOk hlatest hids.1 hids.2).mp ⟨status, hstatus⟩
      · obtain ⟨_, _, _, hout⟩ := recordExecutionUpdateEvent_eq_ok hout
        cases hout
    · -- a write would have to find nothing under the key
      have hd : decideCommand config services inMemoryRepository store
        ⟨.executionUpdate proposalId payload, again⟩ = _ := hd
      cases planned_of_decide hd with
      | create command => cases command
      | version command => cases command
      | move command found records keyed =>
        have := (keyed _ rfl).unseen
        simp [hnewest] at this
  · rintro ⟨⟨handoffEvent, hlatest, hids⟩, hhash, hstatus⟩
    obtain ⟨proposal, hp⟩ := Option.isSome_iff_exists.mp h.1
    have hlatest := Option.mem_def.mp hlatest
    obtain ⟨response, hresponse⟩ :
        ∃ response, buildExecutionStatusResponse proposal (store.events proposalId) = .ok response :=
      (buildExecutionStatusResponse_isOk hlatest hids.1 hids.2).mpr hstatus
    have hvalid := validateExecutionUpdateHandoffIdentity_eq_ok.mpr hids
    have hsearch : findReplayedEvent (store.events proposalId)
        (some (buildExecutionUpdateIdempotencyKey payload))
        (services.hashCanonicalPayload payload.dump) = .ok (some event) :=
      mapError_eq_ok.mpr ((findReplayedRecord_eq_some hkey).mpr
        ⟨hevent, hhash _ (Option.mem_def.mpr hnewest)⟩)
    have hload : loadProposal inMemoryRepository store proposalId = .ok proposal :=
      loadProposal_eq_ok.mpr hp
    refine ⟨store, .executionStatus (some response), Protocol.execute_reply ?_, rfl, rfl, rfl⟩
    show recordProposalExecutionUpdate services inMemoryRepository store again proposalId payload = _
    simp only [recordProposalExecutionUpdate, hload, bind, Except.bind, hlatest, hvalid]
    simp only [inMemoryRepository, hsearch, hresponse, pure, Except.pure]

end History

/-- After an update was accepted, and whatever was accepted since, the same update is taken without
effect exactly when it is redeliverable. -/
theorem update_redelivery_iff (config : ServiceConfig) (services : Services) (proposalId : String)
    (payload : ProposalExecutionUpdateRequest) (first again : Generated) (before after : List Call)
    (store : InMemoryStore)
    (hrun : run (inMemoryLifecycle config services).accept .empty
      (before ++ ⟨.executionUpdate proposalId payload, first⟩ :: after) = some store) :
    TakenWithoutEffect config services store ⟨.executionUpdate proposalId payload, again⟩ ↔
      Redeliverable services store proposalId payload :=
  takenWithoutEffect_iff (onRecord_of_run hrun) again

/-- A proposal that is handed off. -/
def handedOff : List Call :=
  [Sample.call 0 0 (Sample.create "key-1"),
    Sample.call 1 1 (Sample.transition "pp_000" .submittedForRiskReview [] none),
    Sample.call 2 2 (Sample.approve "pp_000" .risk none),
    Sample.call 3 3 (Sample.approve "pp_000" .clientConsent none),
    Sample.call 4 4 (Sample.handOff "pp_000" "oms_req_1" none)]

/-- A partial execution of the handoff. -/
def partialExecution : ProposalExecutionUpdateRequest :=
  { updateId := "u1", actorId := "oms", executionRequestId := "oms_req_1"
    executionProvider := "oms", updateStatus := .partiallyExecuted }

theorem update_redelivery_executed : ∃ store,
    run (inMemoryLifecycle Sample.config Sample.services).accept .empty
      (handedOff ++ Sample.call 5 5 (.executionUpdate "pp_000" partialExecution) ::
        [Sample.call 6 6 (Sample.update "pp_000" "u2" "oms_req_1" .executed)]) = some store ∧
    (TakenWithoutEffect Sample.config Sample.services store
        (Sample.call 7 7 (.executionUpdate "pp_000" partialExecution)) ↔
      Redeliverable Sample.services store "pp_000" partialExecution) := by
  obtain ⟨store, hrun⟩ := Option.isSome_iff_exists.mp (show (run (inMemoryLifecycle Sample.config
    Sample.services).accept .empty (handedOff ++ Sample.call 5 5 (.executionUpdate "pp_000"
      partialExecution) :: [Sample.call 6 6 (Sample.update "pp_000" "u2" "oms_req_1"
        .executed)])).isSome by decide +kernel)
  exact ⟨store, hrun, update_redelivery_iff _ _ _ _ _ _ handedOff _ store hrun⟩

/-- The part of an error that a state conflict carries. -/
def conflictDetail : Except ProposalError ProposalResponse → Option String
  | .error (.stateConflict detail) => some detail
  | _ => none

/-- After a second handoff the update of the first one is rejected. -/
theorem update_redelivery_secondHandoff : ∃ store,
    run (inMemoryLifecycle Sample.config Sample.services).accept .empty
      (handedOff ++ Sample.call 5 5 (.executionUpdate "pp_000" partialExecution) ::
        [Sample.call 6 6 (Sample.handOff "pp_000" "oms_req_2" none)]) = some store ∧
    ¬ TakenWithoutEffect Sample.config Sample.services store
      (Sample.call 7 7 (.executionUpdate "pp_000" partialExecution)) := by
  have hview : (run (inMemoryLifecycle Sample.config Sample.services).accept .empty
      (handedOff ++ Sample.call 5 5 (.executionUpdate "pp_000" partialExecution) ::
        [Sample.call 6 6 (Sample.handOff "pp_000" "oms_req_2" none)])).map
      (fun store => conflictDetail ((inMemoryLifecycle Sample.config Sample.services).execute store
        (Sample.call 7 7 (.executionUpdate "pp_000" partialExecution))).2) =
      some (some "EXECUTION_REQUEST_ID_MISMATCH") := by decide +kernel
  obtain ⟨store, hrun, hview⟩ := Option.map_eq_some_iff.mp hview
  refine ⟨store, hrun, ?_⟩
  rintro ⟨store', response, hexec, _⟩
  rw [hexec] at hview
  cases hview

end LotusAdvise.Proposals

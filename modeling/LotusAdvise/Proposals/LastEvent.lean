import LotusAdvise.Proposals.InMemory

/-! # The time of the last event

The aggregate repeats the time of its last event. A report request keeps the greater of
the stored time and its own; every other command writes the time of its own event, also
when a downstream update states a time before the last event.
-/

namespace LotusAdvise.Proposals

open Interleaving Runs

/-- The proposal a command is about, or the one a creation makes. -/
def Call.target (call : Call) : String :=
  call.command.proposalId?.getD call.generated.proposalId

/-- The time a command gives its event; a report request compares its own with the stored one. -/
def Call.statedAt (services : Services) (call : Call) : Option DateTime :=
  match call.command with
  | .executionUpdate _ payload =>
    match payload.occurredAt with
    | some text => services.fromIsoformat text
    | none => some call.generated.now
  | .reportRequest .. => none
  | _ => some call.generated.now

/-- Every stored proposal has the greatest time of its log. -/
def LastEventTracked (store : InMemoryStore) : Prop :=
  ∀ proposalId proposal, store.proposals proposalId = some proposal →
    proposal.lastEventAt.IsLatest ((store.events proposalId).map (·.occurredAt))

/-- No stored proposal goes back in time. -/
def LastEventKept (store : InMemoryStore) (_ : Call) (store' : InMemoryStore) : Prop :=
  ∀ proposalId proposal next, store.proposals proposalId = some proposal →
    store'.proposals proposalId = some next →
    next.lastEventAt.lt? proposal.lastEventAt = some false

/-- A command that records an event gives it no time before the last event of its proposal. -/
def StatesLaterTime (services : Services) (store : InMemoryStore) (call : Call)
    (_ : InMemoryStore) : Prop :=
  FindsNoReplay store call.command → ∀ occurredAt ∈ call.statedAt services,
    ∀ proposal ∈ store.proposals call.target,
      occurredAt.lt? proposal.lastEventAt = some false

/-- The time of the event that a command records, and the one its aggregate repeats. -/
inductive RecordsTime (services : Services) (store : InMemoryStore) (call : Call)
    (next : ProposalRecord) (event : ProposalWorkflowEventRecord) : Prop where
  | stated (time : call.statedAt services = some event.occurredAt)
    (last : next.lastEventAt = event.occurredAt)
  | latest {proposal : ProposalRecord} (time : call.statedAt services = none)
    (found : store.proposals call.target = some proposal)
    (last : proposal.lastEventAt.max? event.occurredAt = some next.lastEventAt)

section Inversion

variable {config : ServiceConfig} {services : Services} {store store' : InMemoryStore}
  {call : Call}

theorem resolveValidExecutionUpdateTimestamp_eq_ok {payload : ProposalExecutionUpdateRequest}
    {now occurredAt : DateTime} {handoffEvent : ProposalWorkflowEventRecord}
    (h : resolveValidExecutionUpdateTimestamp services payload now handoffEvent =
      .ok occurredAt) :
    (match payload.occurredAt with
      | some text => services.fromIsoformat text
      | none => some now) = some occurredAt := by
  cases hat : payload.occurredAt with
  | none =>
    simp only [resolveValidExecutionUpdateTimestamp, hat, bind_eq_ok] at h
    obtain ⟨time, ⟨⟩, h⟩ := h
    split at h <;> cases h
    rfl
  | some text =>
    simp only [resolveValidExecutionUpdateTimestamp, hat, bind_eq_ok] at h
    obtain ⟨time, htime, h⟩ := h
    simp only [Services.parseTimestamp] at htime
    split at htime <;> cases htime
    split at h <;> cases h
    assumption

/-- What a command that writes says about the time of its event. -/
theorem recordsTime_of_decide (hids : IdsMatch store) {w write : RepositoryWrite}
    {rest : List RepositoryWrite} {response : ProposalResponse} {next : ProposalRecord}
    {event : ProposalWorkflowEventRecord}
    (h : (inMemoryLifecycle config services).decide store call = .ok (.write w rest response))
    (hwrite : write ∈ w :: rest) (hnext : write.proposal? = some next)
    (hevent : write.event? = some event) :
    next.proposalId = call.target ∧ RecordsTime services store call next event := by
  have h : decideCommand config services inMemoryRepository store call =
    .ok (.write w rest response) := h
  obtain ⟨command, generated⟩ := call
  cases command with
  | create arguments =>
    obtain ⟨_, _, ⟨_, _, _, _, _, hout⟩ | ⟨_, resolved, version, _, hout⟩⟩ :=
      createProposalCommand_eq_ok h
    · cases hout
    · cases hout
      obtain rfl := List.mem_singleton.mp hwrite
      cases hnext
      cases hevent
      exact ⟨rfl, .stated rfl rfl⟩
  | createVersion =>
    obtain ⟨proposal, version, hp, _, _, hout⟩ := createProposalVersion_eq_ok h
    cases hout
    rcases List.mem_cons.mp hwrite with rfl | hwrite
    · cases hnext
    · obtain rfl := List.mem_singleton.mp hwrite
      cases hnext
      cases hevent
      exact ⟨hids _ proposal hp, .stated rfl rfl⟩
  | transition =>
    obtain ⟨proposal, hp, ⟨_, _, hout⟩ | ⟨_, hout⟩⟩ := transitionProposalState_eq_ok h
    · cases hout
    · obtain ⟨_, _, _, hout⟩ := recordStateTransition_eq_ok hout
      cases hout
      obtain rfl := List.mem_singleton.mp hwrite
      cases hnext
      cases hevent
      exact ⟨hids _ proposal hp, .stated rfl rfl⟩
  | approval =>
    obtain ⟨proposal, hp, ⟨_, _, hout⟩ | ⟨_, hout⟩⟩ := recordProposalApproval_eq_ok h
    · simp only [bind_eq_ok] at hout
      obtain ⟨found, _, hout⟩ := hout
      cases found <;> cases hout
    · obtain ⟨_, _, _, _, _, hout⟩ := recordApprovalTransition_eq_ok hout
      cases hout
      obtain rfl := List.mem_singleton.mp hwrite
      cases hnext
      cases hevent
      exact ⟨hids _ proposal hp, .stated rfl rfl⟩
  | executionHandoff =>
    obtain ⟨proposal, hp, ⟨_, _, hout⟩ | ⟨_, hout⟩⟩ := requestProposalExecutionHandoff_eq_ok h
    · cases hout
    · obtain ⟨_, _, hout⟩ := recordExecutionHandoff_eq_ok hout
      cases hout
      obtain rfl := List.mem_singleton.mp hwrite
      cases hnext
      cases hevent
      exact ⟨hids _ proposal hp, .stated rfl rfl⟩
  | executionUpdate _ payload =>
    obtain ⟨proposal, _, hp, _, _, ⟨_, _, hout⟩ | ⟨_, hout⟩⟩ :=
      recordProposalExecutionUpdate_eq_ok h
    · simp only [bind_eq_ok] at hout
      obtain ⟨_, _, hout⟩ := hout
      cases hout
    · obtain ⟨occurredAt, _, htime, hout⟩ := recordExecutionUpdateEvent_eq_ok hout
      cases hout
      obtain rfl := List.mem_singleton.mp hwrite
      cases hnext
      cases hevent
      exact ⟨hids _ proposal hp, .stated (resolveValidExecutionUpdateTimestamp_eq_ok htime) rfl⟩
  | narrativeReview =>
    obtain ⟨proposal, _, _, hp, _, _, ⟨_, _, hout⟩ | ⟨_, hout⟩⟩ := recordNarrativeReview_eq_ok h
    · cases hout
    · cases hout
      obtain rfl := List.mem_singleton.mp hwrite
      cases hnext
      cases hevent
      exact ⟨hids _ proposal hp, .stated rfl rfl⟩
  | reportRequest =>
    obtain ⟨proposal, _, _, _, hp, _, hmax, hout⟩ := recordProposalReportRequest_latest h
    cases hout
    obtain rfl := List.mem_singleton.mp hwrite
    cases hnext
    cases hevent
    exact ⟨hids _ proposal hp, .latest rfl hp hmax⟩

end Inversion

section Runs

variable {config : ServiceConfig} {services : Services} {store store' : InMemoryStore}
  {call : Call} {next : ProposalRecord} {event : ProposalWorkflowEventRecord}

theorem StoresAggregate.tracked_iff (h : StoresAggregate store next event store')
    (hs : LastEventTracked store) : LastEventTracked store' ↔ next.lastEventAt.IsLatest
      ((store.events next.proposalId).map (·.occurredAt) ++ [event.occurredAt]) := by
  unfold LastEventTracked
  rw [h.proposals, h.events]
  constructor
  · intro h'
    simpa using h' next.proposalId next (Function.update_self ..)
  · intro hlatest proposalId proposal hp
    by_cases hid : proposalId = next.proposalId
    · subst hid
      rw [Function.update_self] at hp ⊢
      obtain rfl := Option.some.inj hp
      rwa [List.map_append, List.map_singleton]
    · rw [Function.update_of_ne hid] at hp ⊢
      exact hs proposalId proposal hp

theorem StoresAggregate.events_subset (h : StoresAggregate store next event store')
    (proposalId : String) : store.events proposalId ⊆ store'.events proposalId := by
  rw [h.events, Function.update_apply]
  split
  · next hid =>
    rw [hid]
    exact List.subset_append_left _ _
  · exact List.Subset.refl _

/-- The invariant of the runs in which the stored times follow the logs. -/
structure TrackedStore (store : InMemoryStore) : Prop where
  idsMatch : IdsMatch store
  tracked : LastEventTracked store
  unstored : ∀ proposalId, store.proposals proposalId = none → store.events proposalId = []

namespace TrackedStore

variable (hs : TrackedStore store)
  (haccept : (inMemoryLifecycle config services).accept store call = some store')

include hs haccept

/-- An accepted command keeps the stored times exactly when it states no earlier time. -/
theorem accept_iff : LastEventTracked store' ↔ StatesLaterTime services store call store' := by
  rcases stores_of_accept hs.idsMatch haccept with
    ⟨_, hd, rfl⟩ | ⟨w, rest, _, write, next, event, hd, hwrite, hnext, hevent, hstores⟩
  · exact iff_of_true hs.tracked fun hnone => absurd hnone (not_findsNoReplay_of_reply hd)
  · obtain ⟨htarget, htime⟩ := recordsTime_of_decide hs.idsMatch hd hwrite hnext hevent
    rw [hstores.tracked_iff hs.tracked, StatesLaterTime,
      forall_prop_of_true (findsNoReplay_of_write hd)]
    cases htime with
    | stated time last =>
      rw [last, time, ← htarget]
      cases hp : store.proposals next.proposalId with
      | none =>
        rw [hs.unstored _ hp]
        exact iff_of_true (DateTime.isLatest_singleton _) fun _ _ _ hp => (by cases hp)
      | some proposal =>
        rw [(hs.tracked _ proposal hp).concat_iff]
        simp only [Option.mem_def, Option.some.injEq, forall_eq']
    | latest time found last =>
      refine iff_of_true ((hs.tracked _ _ (htarget ▸ found)).concat_max last) ?_
      rw [time]
      exact fun _ hnone => (by cases hnone)

theorem kept (htracked : LastEventTracked store') : LastEventKept store call store' := by
  intro proposalId proposal after hp hafter
  have hsubset : store.events proposalId ⊆ store'.events proposalId := by
    rcases stores_of_accept hs.idsMatch haccept with ⟨_, _, rfl⟩ | ⟨_, _, _, _, _, _, _, _, _, _, h⟩
    · exact List.Subset.refl _
    · exact h.events_subset proposalId
  obtain ⟨event, hevent, htime⟩ := List.mem_map.mp (hs.tracked proposalId proposal hp).1
  rw [← htime]
  exact (htracked proposalId after hafter).2 _ (List.mem_map_of_mem (hsubset hevent))

theorem step (htracked : LastEventTracked store') : TrackedStore store' where
  idsMatch := idsMatch_of_accept hs.idsMatch haccept
  tracked := htracked
  unstored proposalId hp := by
    rcases stores_of_accept hs.idsMatch haccept with
      ⟨_, _, rfl⟩ | ⟨_, _, _, _, next, _, _, _, _, _, h⟩
    · exact hs.unstored proposalId hp
    · rw [h.proposals, Function.update_apply] at hp
      split at hp
      · cases hp
      · next hid =>
        rw [h.events, Function.update_of_ne hid]
        exact hs.unstored proposalId hp

end TrackedStore

/-- In a run of accepted commands every stored proposal has the greatest time of its log and never
goes back in time, exactly when no command that records an event gives it an earlier time than the
last one of its proposal. -/
theorem last_event_iff (config : ServiceConfig) (services : Services) (calls : List Call) :
    (EveryState (inMemoryLifecycle config services).accept LastEventTracked .empty calls ∧
      EveryStep (inMemoryLifecycle config services).accept LastEventKept .empty calls) ↔
    EveryStep (inMemoryLifecycle config services).accept (StatesLaterTime services) .empty
      calls := by
  have hempty : TrackedStore .empty :=
    ⟨fun _ _ h => (by cases h), fun _ _ h => (by cases h), fun _ _ => rfl⟩
  rw [EveryState, and_iff_right hempty.tracked, ← everyStep_and]
  refine everyStep_iff_of_invariant (fun _ _ _ hs hstep hq => ?_) (fun _ _ _ hs hstep => ?_) hempty
  · exact hs.step hstep ((hs.accept_iff hstep).mpr hq)
  · rw [← hs.accept_iff hstep]
    exact ⟨And.left, fun htracked => ⟨htracked, hs.kept hstep htracked⟩⟩

/-- The second downstream update states a time between the handoff and the first update. -/
def backDatedUpdate : List Call :=
  [Sample.call 0 0 (Sample.create "key-1"),
    Sample.call 1 1 (Sample.transition "pp_000" .submittedForRiskReview [] none),
    Sample.call 2 2 (Sample.approve "pp_000" .risk none),
    Sample.call 3 3 (Sample.approve "pp_000" .clientConsent none),
    Sample.call 4 4 (Sample.handOff "pp_000" "oms_req_1" none),
    Sample.call 6 6 (Sample.update "pp_000" "u1" "oms_req_1" .accepted),
    Sample.call 7 7 (.executionUpdate "pp_000"
      { updateId := "u2", actorId := "oms", executionRequestId := "oms_req_1"
        executionProvider := "oms", updateStatus := .partiallyExecuted
        occurredAt := some "2026-03-26T09:05:00+00:00" })]

theorem last_event_backDatedUpdate : ∃ store,
    run (inMemoryLifecycle Sample.config Sample.services).accept .empty backDatedUpdate =
      some store ∧ ¬ LastEventTracked store := by
  have hview : (run (inMemoryLifecycle Sample.config Sample.services).accept .empty
      backDatedUpdate).map (fun store => ((store.proposals "pp_000").map (·.lastEventAt),
        (store.events "pp_000").map (·.occurredAt))) =
      some (some (Sample.clock 5), [0, 1, 2, 3, 4, 6, 5].map Sample.clock) := by decide +kernel
  obtain ⟨store, hrun, hview⟩ := Option.map_eq_some_iff.mp hview
  obtain ⟨hlast, htimes⟩ := Prod.mk.inj hview
  obtain ⟨proposal, hp, hlast⟩ := Option.map_eq_some_iff.mp hlast
  refine ⟨store, hrun, fun htracked => ?_⟩
  have hlatest := (htracked "pp_000" proposal hp).2 (Sample.clock 6) (by rw [htimes]; decide)
  rw [hlast] at hlatest
  exact absurd hlatest (by decide)

end Runs

end LotusAdvise.Proposals

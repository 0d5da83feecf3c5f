import LotusAdvise.Proposals.InMemory
import LotusAdvise.Proposals.Postgres

/-! # The order of the events

The database lists the events of a proposal by the text of their timestamps and then by
their identifiers, the in-memory repository in the order in which they were appended. A
mirrored repository performs in memory what the database commits, so that the two lists
can be compared along one run.
-/

namespace LotusAdvise.Proposals

open Interleaving Runs Tables

/-- A database, and an in-memory repository that performs the writes the database commits. -/
structure Mirrored where
  postgres : PostgresStore
  inMemory : InMemoryStore

namespace Mirrored

def empty : Mirrored := ⟨.empty, .empty⟩

/-- A write that the database commits; memory keeps its state if it should refuse the write. -/
def perform (store : Mirrored) (write : RepositoryWrite) : Except ProposalError Mirrored := do
  let postgres ← store.postgres.perform write
  return ⟨postgres, (store.inMemory.perform write).toOption.getD store.inMemory⟩

/-- The two repositories hold the same aggregates, and the same logs in the order of the commits. -/
structure Agree (store : Mirrored) : Prop where
  proposals : ∀ proposalId, store.inMemory.proposals proposalId =
    store.postgres.getProposal proposalId
  events : ∀ proposalId, store.inMemory.events proposalId =
    store.postgres.committedEvents proposalId

end Mirrored

/-- The commands read from the database. -/
def mirroredRepository (collation : LinearOrder String) : ProposalRepository Mirrored where
  getIdempotency store := (postgresRepository collation).getIdempotency store.postgres
  getProposal store := (postgresRepository collation).getProposal store.postgres
  getVersion store := (postgresRepository collation).getVersion store.postgres
  listEvents store := (postgresRepository collation).listEvents store.postgres
  listApprovals store := (postgresRepository collation).listApprovals store.postgres
  perform := Mirrored.perform

abbrev mirroredLifecycle (config : ServiceConfig) (services : Services)
    (collation : LinearOrder String) :
    Protocol Mirrored Call RepositoryWrite ProposalResponse ProposalError :=
  lifecycle config services (mirroredRepository collation)

/-- The events of every proposal are listed in the order of their commits, which is the order of
the in-memory log, and the last one leads to the current state. -/
structure OrderKept (collation : LinearOrder String) (store : Mirrored) : Prop where
  commitOrder : ∀ proposalId, store.postgres.listEvents collation proposalId =
    store.postgres.committedEvents proposalId
  inMemory : ∀ proposalId, store.postgres.listEvents collation proposalId =
    store.inMemory.events proposalId
  lastState : ∀ proposalId proposal, store.postgres.getProposal proposalId = some proposal →
    ∃ event, (store.postgres.listEvents collation proposalId).getLast? = some event ∧
      event.toState = proposal.currentState

/-- An event that is committed does not sort before the one committed last for its proposal. -/
def SortsLast (collation : LinearOrder String) (store : Mirrored) (_ : Call)
    (write : RepositoryWrite) : Prop :=
  (∃ postgres, store.postgres.perform write = .ok postgres) → ∀ event ∈ write.event?,
    ∀ last ∈ (store.postgres.committedEvents event.proposalId).getLast?,
      PostgresStore.EventBefore collation last event

/-- A write records the event of a call beside the state the event leads to. -/
structure Logs (call : Call) (write : RepositoryWrite) (proposal : ProposalRecord)
    (event : ProposalWorkflowEventRecord) : Prop where
  stores : write.proposal? = some proposal
  appends : write.event? = some event
  eventId : event.eventId = call.generated.eventId
  eventProposalId : event.proposalId = proposal.proposalId
  toState : event.toState = proposal.currentState

section Writes

variable {store store' : Mirrored} {write : RepositoryWrite}

theorem Mirrored.perform_eq_ok : store.perform write = .ok store' ↔
    ∃ postgres, store.postgres.perform write = .ok postgres ∧
      store' = ⟨postgres, (store.inMemory.perform write).toOption.getD store.inMemory⟩ := by
  rw [Mirrored.perform, bind_eq_ok]
  constructor
  · rintro ⟨postgres, hw, h⟩
    exact ⟨postgres, hw, (Except.ok.inj h).symm⟩
  · rintro ⟨postgres, hw, rfl⟩
    exact ⟨postgres, hw, rfl⟩

/-- The in-memory repository refuses nothing that the database commits. -/
theorem Mirrored.Agree.accepts {postgres : PostgresStore} (h : store.Agree)
    (hnew : ∀ event ∈ write.event?, store.postgres.EventUnused event.eventId)
    (hw : store.postgres.perform write = .ok postgres) :
    ∃ inMemory, store.inMemory.perform write = .ok inMemory := by
  cases write with
  | createProposal => exact ⟨_, rfl⟩
  | createVersion => exact ⟨_, rfl⟩
  | transitionProposal proposal event approval expectedCurrentState expectedCurrentVersionNo =>
    obtain ⟨hexpected, _⟩ := PostgresStore.transitionProposal_eq_ok (hnew event rfl) hw
    rw [← h.proposals] at hexpected
    exact ⟨_, if_pos hexpected⟩

/-- Each write that the database commits leaves the two repositories in agreement. -/
theorem Mirrored.Agree.perform (h : store.Agree)
    (hnew : ∀ event ∈ write.event?, store.postgres.EventUnused event.eventId)
    (hw : store.perform write = .ok store') : store'.Agree := by
  obtain ⟨postgres, hdb, rfl⟩ := Mirrored.perform_eq_ok.mp hw
  obtain ⟨inMemory, hm⟩ := h.accepts hnew hdb
  have hcommitted := PostgresStore.committed_of_perform hnew hdb
  have hproposals := InMemoryStore.perform_proposals hm
  rw [hm]
  constructor
  · intro proposalId
    show inMemory.proposals proposalId = postgres.getProposal proposalId
    have hstored := hcommitted.proposals proposalId
    rcases hp : write.proposal? with _ | proposal
    · simp only [hp] at hproposals hstored
      rw [hproposals, hstored]
      exact h.proposals proposalId
    · simp only [hp] at hproposals hstored
      rw [hproposals, hstored, Function.update_apply, h.proposals]
      simp only [eq_comm]
  · intro proposalId
    show inMemory.events proposalId = postgres.committedEvents proposalId
    rw [InMemoryStore.perform_events hm, hcommitted.committedEvents, h.events]

end Writes

/-- The mirrored repositories agree, and the database lists the events as they were committed. -/
structure Ordered (collation : LinearOrder String) (store : Mirrored) (started : List Call) :
    Prop where
  agree : store.Agree
  drawn : ∀ event ∈ store.postgres.events, ∃ call ∈ started,
    event.eventId = call.generated.eventId
  kept : OrderKept collation store

/-- A thread that may still record its event drew an identifier that no event is stored under. -/
inductive AboutToLog (store : Mirrored) :
    Thread Call RepositoryWrite ProposalResponse ProposalError → Prop where
  | idle : AboutToLog store .idle
  | reading {call : Call} (unused : store.postgres.EventUnused call.generated.eventId) :
    AboutToLog store (.reading call)
  | inserting {call : Call} {version : ProposalVersionRecord} {write : RepositoryWrite}
    {response : ProposalResponse} {proposal : ProposalRecord} {event : ProposalWorkflowEventRecord}
    (unused : store.postgres.EventUnused call.generated.eventId)
    (logs : Logs call write proposal event) :
    AboutToLog store (.writing call (.createVersion version) [write] response)
  | logging {call : Call} {write : RepositoryWrite} {response : ProposalResponse}
    {proposal : ProposalRecord} {event : ProposalWorkflowEventRecord}
    (unused : store.postgres.EventUnused call.generated.eventId)
    (logs : Logs call write proposal event) :
    AboutToLog store (.writing call write [] response)
  | returned {call : Call} {response : ProposalResponse} : AboutToLog store (.returned call response)
  | raised {call : Call} {error : ProposalError} : AboutToLog store (.raised call error)

section Steps

variable {config : ServiceConfig} {services : Services} {collation : LinearOrder String}
  {store store' : Mirrored} {started : List Call} {call : Call} {write : RepositoryWrite}
  {rest : List RepositoryWrite} {response : ProposalResponse} {proposal : ProposalRecord}
  {event : ProposalWorkflowEventRecord}

/-- Every command that decides to write logs its event in its last write. -/
theorem aboutToLog_afterRead (unused : store.postgres.EventUnused call.generated.eventId) :
    AboutToLog store
      (.afterRead call ((mirroredLifecycle config services collation).decide store call)) := by
  rcases hd : (mirroredLifecycle config services collation).decide store call with
    e | r | ⟨w, rest, r⟩
  · exact .raised
  · exact .returned
  · cases planned_of_decide hd with
    | create _ _ _ _ records =>
      have hid := records.eventProposalId.trans records.proposalId.symm
      have hstate := records.toState.trans records.currentState.symm
      exact .logging unused ⟨rfl, rfl, records.eventId, hid, hstate⟩
    | version _ _ records =>
      have hid := records.eventProposalId.trans records.nextId.symm
      have hstate := records.toState.trans records.nextState.symm
      exact .inserting unused ⟨rfl, rfl, records.eventId, hid, hstate⟩
    | move _ _ records _ =>
      have hid := records.eventProposalId.trans records.nextId.symm
      exact .logging unused ⟨rfl, rfl, records.eventId, hid, records.nextState.symm⟩

theorem Logs.fresh (logs : Logs call write proposal event)
    (unused : store.postgres.EventUnused call.generated.eventId) :
    ∀ event ∈ write.event?, store.postgres.EventUnused event.eventId := by
  rw [logs.appends]
  rintro _ ⟨⟩
  rw [logs.eventId]
  exact unused

/-- The log of a proposal after a write that recorded an event. -/
theorem Logs.committedEvents (logs : Logs call write proposal event)
    (hcommitted : PostgresStore.Committed store.postgres write store'.postgres)
    (proposalId : String) : store'.postgres.committedEvents proposalId =
      if proposal.proposalId = proposalId then
        store.postgres.committedEvents proposalId ++ [event]
      else store.postgres.committedEvents proposalId := by
  rw [hcommitted.committedEvents, logs.appends]
  split
  · next heq => simp [logs.eventProposalId, heq]
  · next hne => simp [logs.eventProposalId, hne]

/-- The lists keep their order exactly when the new event comes last in its own. -/
theorem Logs.orderKept_iff (hI : Ordered collation store started)
    (logs : Logs call write proposal event)
    (unused : store.postgres.EventUnused call.generated.eventId)
    (hw : store.perform write = .ok store') :
    OrderKept collation store' ↔ SortsLast collation store call write := by
  obtain ⟨postgres, hdb, heq⟩ := Mirrored.perform_eq_ok.mp hw
  have hpostgres : store'.postgres = postgres := congrArg Mirrored.postgres heq
  have hcommitted := PostgresStore.committed_of_perform (logs.fresh unused) hdb
  rw [← hpostgres] at hcommitted
  have hlog := logs.committedEvents hcommitted
  have hagree := hI.agree.perform (logs.fresh unused) hw
  constructor
  · intro hkept _ other hother last hlast
    obtain rfl : event = other := Option.some.inj (logs.appends.symm.trans hother)
    have horder := hkept.commitOrder event.proposalId
    rw [PostgresStore.listEvents, hlog, if_pos logs.eventProposalId.symm] at horder
    exact (orderBy_concat_eq_self.mp horder).2 last hlast
  · intro hsorts
    have hlast := hsorts ⟨postgres, hdb⟩ event logs.appends
    rw [logs.eventProposalId] at hlast
    have horder : ∀ proposalId, store'.postgres.listEvents collation proposalId =
        store'.postgres.committedEvents proposalId := by
      intro proposalId
      rw [PostgresStore.listEvents, hlog]
      split
      · next hid =>
        subst hid
        exact orderBy_concat_eq_self.mpr ⟨hI.kept.commitOrder _, hlast⟩
      · exact hI.kept.commitOrder proposalId
    refine ⟨horder, fun proposalId => ?_, fun proposalId p hp => ?_⟩
    · rw [horder, hagree.events]
    · rw [horder, hlog]
      rw [hcommitted.proposals, logs.stores] at hp
      simp only at hp
      split at hp
      · next hid =>
        obtain rfl : proposal = p := Option.some.inj hp
        rw [if_pos hid]
        exact ⟨event, List.getLast?_concat, logs.toState⟩
      · next hid =>
        rw [if_neg hid, ← hI.kept.commitOrder]
        exact hI.kept.lastState proposalId p hp

/-- The insertion of a version changes neither the aggregates nor the logs. -/
theorem Ordered.createVersion {version : ProposalVersionRecord}
    (hI : Ordered collation store started)
    (hw : store.perform (.createVersion version) = .ok store') :
    store'.postgres.events = store.postgres.events ∧ Ordered collation store' started := by
  obtain ⟨postgres, hdb, heq⟩ := Mirrored.perform_eq_ok.mp hw
  have hpostgres : store'.postgres = postgres := congrArg Mirrored.postgres heq
  have hcommitted := PostgresStore.committed_of_perform (by rintro _ ⟨⟩) hdb
  rw [← hpostgres] at hcommitted
  have hevents : store'.postgres.events = store.postgres.events :=
    hcommitted.events.trans (List.append_nil _)
  have hlog : ∀ proposalId, store'.postgres.committedEvents proposalId =
      store.postgres.committedEvents proposalId := by
    intro proposalId
    rw [PostgresStore.committedEvents, hevents]
    rfl
  have hagree := hI.agree.perform (by rintro _ ⟨⟩) hw
  refine ⟨hevents, hagree, by rw [hevents]; exact hI.drawn, ?_, ?_, ?_⟩
  · intro proposalId
    rw [PostgresStore.listEvents, hlog]
    exact hI.kept.commitOrder proposalId
  · intro proposalId
    rw [hagree.events, PostgresStore.listEvents, hlog]
    exact hI.kept.commitOrder proposalId
  · intro proposalId p hp
    rw [PostgresStore.listEvents, hlog]
    rw [hcommitted.proposals] at hp
    exact hI.kept.lastState proposalId p hp

/-- The log after the write that recorded an event. -/
theorem Logs.events (logs : Logs call write proposal event)
    (unused : store.postgres.EventUnused call.generated.eventId)
    (hw : store.perform write = .ok store') :
    store'.postgres.events = store.postgres.events ++ [event] := by
  obtain ⟨postgres, hdb, rfl⟩ := Mirrored.perform_eq_ok.mp hw
  rw [(PostgresStore.committed_of_perform (logs.fresh unused) hdb).events, logs.appends]
  rfl

theorem Ordered.logged (hI : Ordered collation store started) (hcall : call ∈ started)
    (logs : Logs call write proposal event)
    (unused : store.postgres.EventUnused call.generated.eventId)
    (hG : SortsLast collation store call write) (hw : store.perform write = .ok store') :
    Ordered collation store' started := by
  refine ⟨hI.agree.perform (logs.fresh unused) hw, ?_, (logs.orderKept_iff hI unused hw).mpr hG⟩
  rw [logs.events unused hw]
  intro other hother
  rcases List.mem_append.mp hother with hold | hnew
  · exact hI.drawn other hold
  · obtain rfl := List.mem_singleton.mp hnew
    exact ⟨call, hcall, logs.eventId⟩

/-- A write uses no identifier that another command drew. -/
theorem AboutToLog.unused_step {eventId : String} (hI : Ordered collation store started)
    (hT : AboutToLog store (.writing call write rest response))
    (hw : store.perform write = .ok store') (hne : call.generated.eventId ≠ eventId)
    (hunused : store.postgres.EventUnused eventId) : store'.postgres.EventUnused eventId := by
  cases hT with
  | inserting =>
    rw [PostgresStore.EventUnused, (hI.createVersion hw).1]
    exact hunused
  | logging unused logs =>
    rw [PostgresStore.EventUnused, logs.events unused hw]
    intro other hother
    rcases List.mem_append.mp hother with hold | hnew
    · exact hunused other hold
    · obtain rfl := List.mem_singleton.mp hnew
      rwa [logs.eventId]

theorem ordered_outline : (mirroredLifecycle config services collation).Outline
    (Ordered collation) AboutToLog (fun _ => True) (SortsLast collation) where
  idle _ := .idle
  start store started call hI _ hapart := by
    refine ⟨⟨hI.agree, fun event hevent => ?_, hI.kept⟩, .reading fun event hevent hid => ?_⟩
    · obtain ⟨d, hd, hid⟩ := hI.drawn event hevent
      exact ⟨d, List.mem_cons_of_mem _ hd, hid⟩
    · obtain ⟨d, hd, hdrawn⟩ := hI.drawn event hevent
      exact (Generated.apart_iff.mp (hapart d hd)).1 (hid.symm.trans hdrawn)
  read store started call _ _ hT := by
    cases hT with
    | reading unused => exact aboutToLog_afterRead unused
  write store started call write rest response store' hI hcall hT hG hw := by
    cases hT with
    | inserting unused logs =>
      obtain ⟨hevents, hI'⟩ := hI.createVersion hw
      refine ⟨hI', .logging ?_ logs⟩
      rw [PostgresStore.EventUnused, hevents]
      exact unused
    | logging unused logs => exact ⟨hI.logged hcall logs unused hG hw, .returned⟩
  fail _ _ _ _ _ _ _ _ _ _ := .raised
  stable store started call write rest response store' t hI hT _ hw ht hapart := by
    have keep : ∀ d, t.command? = some d → store.postgres.EventUnused d.generated.eventId →
        store'.postgres.EventUnused d.generated.eventId := by
      intro d hd
      exact hT.unused_step hI hw (Generated.apart_iff.mp (hapart d hd)).1
    cases ht with
    | idle => exact .idle
    | reading unused => exact .reading (keep _ rfl unused)
    | inserting unused logs => exact .inserting (keep _ rfl unused) logs
    | logging unused logs => exact .logging (keep _ rfl unused) logs
    | returned => exact .returned
    | raised => exact .raised

end Steps

theorem ordered_empty (collation : LinearOrder String) : Ordered collation .empty [] where
  agree := ⟨fun _ => rfl, fun _ => rfl⟩
  drawn _ h := by cases h
  kept := ⟨fun _ => rfl, fun _ => rfl, fun _ _ h => by cases h⟩

/-- Along a run against the database, the listed events are those of the in-memory repository, in
the order of the commits and with the current state at the end, exactly when no event that is
committed sorts before the last one of its proposal. -/
theorem event_order_iff (config : ServiceConfig) (services : Services)
    (collation : LinearOrder String) (labels : List (Label Call)) :
    EveryState (mirroredLifecycle config services collation).step
        (fun pool => OrderKept collation pool.store) (.initial .empty) labels ↔
      EveryStep (mirroredLifecycle config services collation).step
        (Protocol.Guard (fun _ => True) (SortsLast collation)) (.initial .empty) labels := by
  have outline : (mirroredLifecycle config services collation).Outline (Ordered collation)
      AboutToLog (fun _ => True) (SortsLast collation) := ordered_outline
  refine everyState_iff_of_invariant (fun _ _ _ hs hstep hq => outline.holds_step hs hstep hq)
    (fun pool label after hs hstep => ⟨fun hkept => ?_, fun hq => ?_⟩)
    (outline.holds_initial (ordered_empty collation)) (ordered_empty collation).kept
  · cases Protocol.steps_of_step _ hstep with
    | start => trivial
    | read i call thread => simp only [Protocol.Guard, thread]
    | fail i call w rest r e thread refused =>
      simp only [Protocol.Guard, thread]
      rintro ⟨postgres, hdb⟩
      have hok := Mirrored.perform_eq_ok.mpr ⟨postgres, hdb, rfl⟩
      cases refused.symm.trans hok
    | write i call w rest r store' thread done =>
      have hT := hs.threads i
      rw [thread] at hT
      simp only [Protocol.Guard, thread]
      cases hT with
      | inserting => rintro _ _ ⟨⟩
      | logging unused logs => exact (logs.orderKept_iff hs.store unused done).mp hkept
  · exact (outline.holds_step hs hstep hq).store.kept

/-- The time of a provider five hours behind UTC. -/
def providerTime : DateTime where
  year := 2026
  month := 3
  day := 26
  hour := 4
  minute := 5
  second := 0
  microsecond := 0
  utcOffset := some (-18000000000)
  inRange := by decide

def providerServices : Services where
  __ := Sample.services
  fromIsoformat text := if text = providerTime.isoformat then some providerTime else none

/-- A proposal is handed off at four minutes past nine, and its provider reports a minute later that
it was executed. -/
def providerCalls : List Call :=
  [Sample.call 0 0 (Sample.create "key-1"),
    Sample.call 1 1 (Sample.transition "pp_000" .submittedForRiskReview [] none),
    Sample.call 2 2 (Sample.approve "pp_000" .risk none),
    Sample.call 3 3 (Sample.approve "pp_000" .clientConsent none),
    Sample.call 4 4 (Sample.handOff "pp_000" "oms_req_1" none),
    Sample.call 5 5 (.executionUpdate "pp_000"
      { updateId := "u1", actorId := "oms", executionRequestId := "oms_req_1"
        executionProvider := "oms", updateStatus := .executed
        occurredAt := some providerTime.isoformat })]

/-- The calls one after the other, each on a thread of its own. -/
def providerLabels : List (Label Call) :=
  providerCalls.zipIdx.flatMap fun (call, thread) =>
    [.start thread call, .advance thread, .advance thread]

theorem event_order_provider : ∃ pool,
    run (mirroredLifecycle Sample.config providerServices Sample.codePoints).step (.initial .empty)
      providerLabels = some pool ∧ ¬ OrderKept Sample.codePoints pool.store := by
  have hview : ((run (mirroredLifecycle Sample.config providerServices Sample.codePoints).step
      (.initial .empty) providerLabels).map fun pool =>
        (((pool.store.postgres.listEvents Sample.codePoints "pp_000").getLast?.map (·.toState)),
          (pool.store.postgres.getProposal "pp_000").map (·.currentState))) =
      some (some .executionReady, some .executed) := by decide +kernel
  obtain ⟨pool, hrun, hview⟩ := Option.map_eq_some_iff.mp hview
  obtain ⟨hlist, hstate⟩ := Prod.mk.inj hview
  refine ⟨pool, hrun, fun hkept => ?_⟩
  obtain ⟨proposal, hproposal, hexecuted⟩ := Option.map_eq_some_iff.mp hstate
  obtain ⟨event, hlast, hto⟩ := hkept.lastState "pp_000" proposal hproposal
  rw [hlast, Option.map_some, Option.some.injEq, hto, hexecuted] at hlist
  cases hlist

end LotusAdvise.Proposals

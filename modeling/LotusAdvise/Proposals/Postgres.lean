import LotusAdvise.Foundations.Tables
import LotusAdvise.Proposals.Writes

/-! # The Postgres repository

Five tables with the constraints of the migrations. Each write is one transaction: a
statement that fails rolls it back. Versions, events and approvals are inserted once;
proposals and idempotency records are replaced.
-/

namespace LotusAdvise.Proposals

open Tables

/-- The primary key of `proposal_versions`. -/
def ProposalVersionRecord.slot (version : ProposalVersionRecord) : String × ℕ :=
  (version.proposalId, version.versionNo)

structure PostgresStore where
  proposals : List ProposalRecord
  versions : List ProposalVersionRecord
  events : List ProposalWorkflowEventRecord
  approvals : List ProposalApprovalRecordData
  idempotency : List ProposalIdempotencyRecord
deriving DecidableEq

namespace PostgresStore

def empty : PostgresStore := ⟨[], [], [], [], []⟩

variable (store : PostgresStore)

def getProposalIdempotency (idempotencyKey : String) : Option ProposalIdempotencyRecord :=
  lookup ProposalIdempotencyRecord.idempotencyKey store.idempotency idempotencyKey

def getProposal (proposalId : String) : Option ProposalRecord :=
  lookup ProposalRecord.proposalId store.proposals proposalId

def getVersion (proposalId : String) (versionNo : ℕ) : Option ProposalVersionRecord :=
  lookup ProposalVersionRecord.slot store.versions (proposalId, versionNo)

/-- The events of a proposal in the order of their commits. -/
def committedEvents (proposalId : String) : List ProposalWorkflowEventRecord :=
  store.events.filter fun event => event.proposalId = proposalId

/-- The order of `list_events`: the text of `occurred_at`, then the identifier. -/
abbrev EventBefore (collation : LinearOrder String) :
    ProposalWorkflowEventRecord → ProposalWorkflowEventRecord → Prop :=
  OrderedBefore collation (fun event => event.occurredAt.isoformat)
    ProposalWorkflowEventRecord.eventId

def listEvents (collation : LinearOrder String) (proposalId : String) :
    List ProposalWorkflowEventRecord :=
  orderBy collation (fun event => event.occurredAt.isoformat) ProposalWorkflowEventRecord.eventId
    (store.committedEvents proposalId)

def listApprovals (collation : LinearOrder String) (proposalId : String) :
    List ProposalApprovalRecordData :=
  orderBy collation (fun approval => approval.occurredAt.isoformat)
    ProposalApprovalRecordData.approvalId
    (store.approvals.filter fun approval => approval.proposalId = proposalId)

section Constraints

/-- A foreign key to `proposal_records (proposal_id)`. -/
def referencesProposal (constraint proposalId : String) : Except ProposalError Unit :=
  require (store.getProposal proposalId ≠ none) (.integrity constraint)

/-- A foreign key to `proposal_versions (proposal_id, version_no)`; it is not checked for a null. -/
def referencesVersion (constraint proposalId : String) (versionNo : Option ℤ) :
    Except ProposalError Unit :=
  require (∀ related ∈ versionNo, ∃ version ∈ store.versions,
    version.proposalId = proposalId ∧ (version.versionNo : ℤ) = related) (.integrity constraint)

def relatedVersionPositive (constraint : String) (versionNo : Option ℤ) :
    Except ProposalError Unit :=
  require (∀ related ∈ versionNo, 0 < related) (.integrity constraint)

def versionConstraints (version : ProposalVersionRecord) : Except ProposalError Unit := do
  require (∀ stored ∈ store.versions, stored.proposalVersionId ≠ version.proposalVersionId)
    (.integrity "ux_proposal_versions_proposal_version_id")
  store.referencesProposal "fk_proposal_versions_proposal" version.proposalId

def eventConstraints (event : ProposalWorkflowEventRecord) : Except ProposalError Unit := do
  store.referencesProposal "fk_proposal_workflow_events_proposal" event.proposalId
  store.referencesVersion "fk_proposal_workflow_events_related_version" event.proposalId
    event.relatedVersionNo

def approvalConstraints (approval : ProposalApprovalRecordData) : Except ProposalError Unit := do
  store.referencesProposal "fk_proposal_approvals_proposal" approval.proposalId
  store.referencesVersion "fk_proposal_approvals_related_version" approval.proposalId
    approval.relatedVersionNo

end Constraints

def upsertProposal (proposal : ProposalRecord) : Except ProposalError PostgresStore := do
  require (0 < proposal.currentVersionNo) (.integrity "ck_proposal_records_current_version_positive")
  return { store with proposals := upsert ProposalRecord.proposalId store.proposals proposal }

def insertVersion (version : ProposalVersionRecord) : Except ProposalError PostgresStore := do
  require (0 < version.versionNo) (.integrity "ck_proposal_versions_version_positive")
  let versions ← insertOnce ProposalVersionRecord.slot store.versions version
    (store.versionConstraints version) (.valueError "PROPOSAL_VERSION_IDENTITY_CONFLICT")
  return { store with versions }

def insertEvent (event : ProposalWorkflowEventRecord) : Except ProposalError PostgresStore := do
  relatedVersionPositive "ck_proposal_workflow_events_related_version_positive"
    event.relatedVersionNo
  let events ← insertOnce ProposalWorkflowEventRecord.eventId store.events event
    (store.eventConstraints event) (.valueError "PROPOSAL_WORKFLOW_EVENT_IDENTITY_CONFLICT")
  return { store with events }

def insertApproval (approval : ProposalApprovalRecordData) :
    Except ProposalError PostgresStore := do
  relatedVersionPositive "ck_proposal_approvals_related_version_positive" approval.relatedVersionNo
  let approvals ← insertOnce ProposalApprovalRecordData.approvalId store.approvals approval
    (store.approvalConstraints approval) (.valueError "PROPOSAL_APPROVAL_IDENTITY_CONFLICT")
  return { store with approvals }

def insertProposalIdempotency (record : ProposalIdempotencyRecord) :
    Except ProposalError PostgresStore := do
  require (0 < record.proposalVersionNo) (.integrity "ck_proposal_idempotency_version_positive")
  store.referencesVersion "fk_proposal_idempotency_version" record.proposalId
    (some record.proposalVersionNo)
  return { store with
    idempotency := upsert ProposalIdempotencyRecord.idempotencyKey store.idempotency record }

def createProposalWithVersionEventIdempotency (proposal : ProposalRecord)
    (version : ProposalVersionRecord) (event : ProposalWorkflowEventRecord)
    (idempotency : ProposalIdempotencyRecord) : Except ProposalError PostgresStore := do
  let store ← store.upsertProposal proposal
  let store ← store.insertVersion version
  let store ← store.insertEvent event
  store.insertProposalIdempotency idempotency

/-- The row of the aggregate is written when it is the one expected, or when none is stated. -/
def updateProposalIfCurrent (proposal : ProposalRecord)
    (expectedCurrentState : Option ProposalWorkflowState) (expectedCurrentVersionNo : Option ℕ) :
    Except ProposalError PostgresStore := do
  require (TransitionExpected (store.getProposal proposal.proposalId) expectedCurrentState
    expectedCurrentVersionNo) aggregateChanged
  store.upsertProposal proposal

def transitionProposal (proposal : ProposalRecord) (event : ProposalWorkflowEventRecord)
    (approval : Option ProposalApprovalRecordData)
    (expectedCurrentState : Option ProposalWorkflowState) (expectedCurrentVersionNo : Option ℕ) :
    Except ProposalError PostgresStore := do
  let store ← store.updateProposalIfCurrent proposal expectedCurrentState expectedCurrentVersionNo
  let store ← store.insertEvent event
  match approval with
  | none => return store
  | some approval => store.insertApproval approval

def perform : RepositoryWrite → Except ProposalError PostgresStore
  | .createProposal proposal version event idempotency =>
    store.createProposalWithVersionEventIdempotency proposal version event idempotency
  | .createVersion version => store.insertVersion version
  | .transitionProposal proposal event approval expectedCurrentState expectedCurrentVersionNo =>
    store.transitionProposal proposal event approval expectedCurrentState expectedCurrentVersionNo

/-- No event is stored under the identifier. -/
def EventUnused (eventId : String) : Prop := ∀ event ∈ store.events, event.eventId ≠ eventId

/-- No version is stored under the identifier. -/
def VersionUnused (proposalVersionId : String) : Prop :=
  ∀ version ∈ store.versions, version.proposalVersionId ≠ proposalVersionId

instance (eventId : String) : Decidable (store.EventUnused eventId) := by
  unfold EventUnused
  infer_instance

instance (proposalVersionId : String) : Decidable (store.VersionUnused proposalVersionId) := by
  unfold VersionUnused
  infer_instance

section Transactions

variable {store} {store' : PostgresStore} {proposal : ProposalRecord}
  {version : ProposalVersionRecord} {event : ProposalWorkflowEventRecord}
  {approval : ProposalApprovalRecordData} {idempotency : ProposalIdempotencyRecord}

theorem referencesProposal_eq_ok {constraint proposalId : String} :
    store.referencesProposal constraint proposalId = .ok () ↔
      ∃ proposal, store.getProposal proposalId = some proposal := by
  rw [referencesProposal, require_eq_ok, Option.ne_none_iff_exists']

theorem referencesVersion_eq_ok {constraint proposalId : String} {versionNo : ℕ} :
    store.referencesVersion constraint proposalId (some (versionNo : ℤ)) = .ok () ↔
      ∃ version, store.getVersion proposalId versionNo = some version := by
  rw [referencesVersion, require_eq_ok, ← Option.ne_none_iff_exists', getVersion, Ne,
    lookup_eq_none]
  constructor
  · intro h hfree
    obtain ⟨version, hmem, hid, hno⟩ := h _ rfl
    exact hfree version hmem (Prod.ext hid (Int.ofNat.inj hno))
  · rintro h _ ⟨⟩
    by_contra hnone
    refine h fun version hmem hslot => hnone ⟨version, hmem, congrArg Prod.fst hslot, ?_⟩
    exact congrArg Int.ofNat (congrArg Prod.snd hslot)

theorem upsertProposal_eq_ok : store.upsertProposal proposal = .ok store' ↔
    0 < proposal.currentVersionNo ∧
      store' = { store with
        proposals := upsert ProposalRecord.proposalId store.proposals proposal } := by
  simp only [upsertProposal, bind_eq_ok, require_eq_ok]
  constructor
  · rintro ⟨_, hpositive, h⟩
    exact ⟨hpositive, (Except.ok.inj h).symm⟩
  · rintro ⟨hpositive, rfl⟩
    exact ⟨(), hpositive, rfl⟩

/-- A version under a new identifier is inserted exactly when its slot is free. -/
theorem insertVersion_eq_ok (hnew : store.VersionUnused version.proposalVersionId) :
    store.insertVersion version = .ok store' ↔
      0 < version.versionNo ∧ store.getVersion version.proposalId version.versionNo = none ∧
        (∃ proposal, store.getProposal version.proposalId = some proposal) ∧
        store' = { store with versions := store.versions ++ [version] } := by
  have hrow : version ∉ store.versions := fun hmem => hnew _ hmem rfl
  have hconstraints : store.versionConstraints version = .ok () ↔
      ∃ proposal, store.getProposal version.proposalId = some proposal := by
    rw [versionConstraints, bind_eq_ok]
    constructor
    · rintro ⟨_, _, h⟩
      exact referencesProposal_eq_ok.mp h
    · intro h
      exact ⟨(), require_eq_ok.mpr hnew, referencesProposal_eq_ok.mpr h⟩
  simp only [insertVersion, bind_eq_ok, require_eq_ok, insertOnce_new hrow, hconstraints]
  constructor
  · rintro ⟨_, hpositive, _, ⟨hfree, hproposal, rfl⟩, h⟩
    exact ⟨hpositive, hfree, hproposal, (Except.ok.inj h).symm⟩
  · rintro ⟨hpositive, hfree, hproposal, rfl⟩
    exact ⟨(), hpositive, _, ⟨hfree, hproposal, rfl⟩, rfl⟩

/-- An event under a new identifier is appended when it references what is stored. -/
theorem insertEvent_eq_ok (hnew : store.EventUnused event.eventId) :
    store.insertEvent event = .ok store' ↔
      (∀ related ∈ event.relatedVersionNo, 0 < related) ∧ store.eventConstraints event = .ok () ∧
        store' = { store with events := store.events ++ [event] } := by
  have hrow : event ∉ store.events := fun hmem => hnew _ hmem rfl
  simp only [insertEvent, relatedVersionPositive, bind_eq_ok, require_eq_ok, insertOnce_new hrow,
    lookup_eq_none.mpr hnew]
  constructor
  · rintro ⟨_, hpositive, _, ⟨_, hconstraints, rfl⟩, h⟩
    exact ⟨hpositive, hconstraints, (Except.ok.inj h).symm⟩
  · rintro ⟨hpositive, hconstraints, rfl⟩
    exact ⟨(), hpositive, _, ⟨trivial, hconstraints, rfl⟩, rfl⟩

/-- An approval changes no other table. -/
theorem insertApproval_eq_ok (h : store.insertApproval approval = .ok store') :
    ∃ approvals, store' = { store with approvals } := by
  simp only [insertApproval, bind_eq_ok] at h
  obtain ⟨_, _, approvals, _, h⟩ := h
  exact ⟨approvals, (Except.ok.inj h).symm⟩

theorem insertProposalIdempotency_eq_ok :
    store.insertProposalIdempotency idempotency = .ok store' ↔
      0 < idempotency.proposalVersionNo ∧
      (∃ version, store.getVersion idempotency.proposalId idempotency.proposalVersionNo =
        some version) ∧
      store' = { store with
        idempotency := upsert ProposalIdempotencyRecord.idempotencyKey store.idempotency
          idempotency } := by
  simp only [insertProposalIdempotency, bind_eq_ok, require_eq_ok]
  constructor
  · rintro ⟨_, hpositive, _, hversion, h⟩
    exact ⟨hpositive, referencesVersion_eq_ok.mp hversion, (Except.ok.inj h).symm⟩
  · rintro ⟨hpositive, hversion, rfl⟩
    exact ⟨(), hpositive, (), referencesVersion_eq_ok.mpr hversion, rfl⟩

theorem getProposal_upsert (proposalId : String) :
    getProposal { store with
      proposals := upsert ProposalRecord.proposalId store.proposals proposal } proposalId =
        if proposal.proposalId = proposalId then some proposal else store.getProposal proposalId :=
  lookup_upsert proposalId

theorem updateProposalIfCurrent_eq_ok {expectedCurrentState : Option ProposalWorkflowState}
    {expectedCurrentVersionNo : Option ℕ} :
    store.updateProposalIfCurrent proposal expectedCurrentState expectedCurrentVersionNo =
        .ok store' ↔
      TransitionExpected (store.getProposal proposal.proposalId) expectedCurrentState
        expectedCurrentVersionNo ∧
      0 < proposal.currentVersionNo ∧
      store' = { store with
        proposals := upsert ProposalRecord.proposalId store.proposals proposal } := by
  simp only [updateProposalIfCurrent, bind_eq_ok, require_eq_ok, upsertProposal_eq_ok]
  constructor
  · rintro ⟨_, hexpected, h⟩
    exact ⟨hexpected, h⟩
  · rintro ⟨hexpected, h⟩
    exact ⟨(), hexpected, h⟩

/-- What a transition that was committed has changed. -/
theorem transitionProposal_eq_ok {approval : Option ProposalApprovalRecordData}
    {expectedCurrentState : Option ProposalWorkflowState} {expectedCurrentVersionNo : Option ℕ}
    (hnew : store.EventUnused event.eventId)
    (h : store.transitionProposal proposal event approval expectedCurrentState
      expectedCurrentVersionNo = .ok store') :
    TransitionExpected (store.getProposal proposal.proposalId) expectedCurrentState
        expectedCurrentVersionNo ∧
      ∃ approvals, store' = { store with
        proposals := upsert ProposalRecord.proposalId store.proposals proposal
        events := store.events ++ [event]
        approvals } := by
  simp only [transitionProposal, bind_eq_ok, updateProposalIfCurrent_eq_ok] at h
  obtain ⟨_, ⟨hexpected, _, rfl⟩, _, hevent, h⟩ := h
  obtain ⟨_, _, rfl⟩ := (insertEvent_eq_ok (by exact hnew)).mp hevent
  refine ⟨hexpected, ?_⟩
  cases approval with
  | none => exact ⟨store.approvals, (Except.ok.inj h).symm⟩
  | some approval =>
    obtain ⟨approvals, rfl⟩ := insertApproval_eq_ok h
    exact ⟨approvals, rfl⟩

/-- A transition with a new event on a stored version is committed when the aggregate is the one
expected. -/
theorem transitionProposal_of_expected {expectedCurrentState : Option ProposalWorkflowState}
    {expectedCurrentVersionNo : Option ℕ} {versionNo : ℕ}
    (hexpected : TransitionExpected (store.getProposal proposal.proposalId) expectedCurrentState
      expectedCurrentVersionNo)
    (hpositive : 0 < proposal.currentVersionNo) (hnew : store.EventUnused event.eventId)
    (hid : event.proposalId = proposal.proposalId) (hrelated : event.relatedVersionNo = some
      (versionNo : ℤ)) (hversionNo : 0 < versionNo)
    (hversion : ∃ version, store.getVersion event.proposalId versionNo = some version) :
    store.transitionProposal proposal event none expectedCurrentState expectedCurrentVersionNo =
      .ok { store with
        proposals := upsert ProposalRecord.proposalId store.proposals proposal
        events := store.events ++ [event] } := by
  simp only [transitionProposal, bind_eq_ok, updateProposalIfCurrent_eq_ok]
  refine ⟨_, ⟨hexpected, hpositive, rfl⟩, _, (insertEvent_eq_ok (by exact hnew)).mpr ⟨?_, ?_, rfl⟩, rfl⟩
  · rw [hrelated]
    rintro _ ⟨⟩
    omega
  · rw [eventConstraints, bind_eq_ok]
    refine ⟨(), referencesProposal_eq_ok.mpr ⟨proposal, ?_⟩, ?_⟩
    · rw [getProposal_upsert, if_pos hid.symm]
    · rw [hrelated]
      exact referencesVersion_eq_ok.mpr hversion

/-- What a creation that was committed has changed. -/
theorem createProposal_eq_ok (hnew : store.EventUnused event.eventId)
    (h : store.createProposalWithVersionEventIdempotency proposal version event idempotency =
      .ok store') :
    ∃ versions, store' = { store with
      proposals := upsert ProposalRecord.proposalId store.proposals proposal
      versions
      events := store.events ++ [event]
      idempotency := upsert ProposalIdempotencyRecord.idempotencyKey store.idempotency
        idempotency } := by
  simp only [createProposalWithVersionEventIdempotency, bind_eq_ok, upsertProposal_eq_ok,
    insertProposalIdempotency_eq_ok, insertVersion] at h
  obtain ⟨_, ⟨_, rfl⟩, _, ⟨_, _, versions, _, ⟨⟩⟩, _, hevent, _, _, rfl⟩ := h
  obtain ⟨_, _, rfl⟩ := (insertEvent_eq_ok (by exact hnew)).mp hevent
  exact ⟨versions, rfl⟩

/-- No row is stored under the identifiers that a creation draws. -/
structure Unused (store : PostgresStore) (generated : Generated) : Prop where
  proposal : store.getProposal generated.proposalId = none
  slots : ∀ version ∈ store.versions, version.proposalId ≠ generated.proposalId
  version : store.VersionUnused generated.proposalVersionId
  event : store.EventUnused generated.eventId

/-- A creation under new identifiers is always committed. -/
theorem createProposal_of_unused {call : Call} (hunused : store.Unused call.generated)
    (records : RecordsCreation call proposal version event idempotency) :
    store.createProposalWithVersionEventIdempotency proposal version event idempotency =
      .ok { store with
        proposals := upsert ProposalRecord.proposalId store.proposals proposal
        versions := store.versions ++ [version]
        events := store.events ++ [event]
        idempotency := upsert ProposalIdempotencyRecord.idempotencyKey store.idempotency
          idempotency } := by
  have hproposal : ∀ versions, getProposal { store with
      proposals := upsert ProposalRecord.proposalId store.proposals proposal
      versions } call.generated.proposalId = some proposal := by
    intro versions
    exact (lookup_upsert _).trans (if_pos records.proposalId)
  have hversion : ∀ events, ∃ stored, getVersion { store with
      proposals := upsert ProposalRecord.proposalId store.proposals proposal
      versions := store.versions ++ [version]
      events } call.generated.proposalId 1 = some stored := by
    intro events
    refine ⟨version, (lookup_append _).trans ?_⟩
    rw [if_pos (by rw [ProposalVersionRecord.slot, records.versionProposalId, records.versionNo])]
    have hslot : lookup ProposalVersionRecord.slot store.versions
        (call.generated.proposalId, 1) = none :=
      lookup_eq_none.mpr fun stored hmem hslot => hunused.slots stored hmem (congrArg Prod.fst hslot)
    rw [hslot, Option.none_or]
  simp only [createProposalWithVersionEventIdempotency, bind_eq_ok]
  refine ⟨_, upsertProposal_eq_ok.mpr ⟨?_, rfl⟩, _, (insertVersion_eq_ok ?_).mpr ⟨?_, ?_, ?_, rfl⟩,
    _, (insertEvent_eq_ok ?_).mpr ⟨?_, ?_, rfl⟩, insertProposalIdempotency_eq_ok.mpr ⟨?_, ?_, rfl⟩⟩
  · rw [records.currentVersionNo]
    exact Nat.one_pos
  · rw [records.versionId]
    exact hunused.version
  · rw [records.versionNo]
    exact Nat.one_pos
  · rw [records.versionProposalId]
    exact lookup_eq_none.mpr fun stored hmem hslot =>
      hunused.slots stored hmem (congrArg Prod.fst hslot)
  · rw [records.versionProposalId]
    exact ⟨proposal, hproposal _⟩
  · rw [records.eventId]
    exact hunused.event
  · rw [records.relatedVersionNo]
    rintro _ ⟨⟩
    exact Int.one_pos
  · rw [eventConstraints, bind_eq_ok, records.eventProposalId, records.relatedVersionNo]
    exact ⟨(), referencesProposal_eq_ok.mpr ⟨proposal, hproposal _⟩,
      referencesVersion_eq_ok.mpr (hversion _)⟩
  · rw [records.idempotencyVersionNo]
    exact Nat.one_pos
  · rw [records.idempotencyProposalId, records.idempotencyVersionNo]
    exact hversion _

/-- What a committed write does to the aggregates and to the log. -/
structure Committed (store : PostgresStore) (write : RepositoryWrite) (store' : PostgresStore) :
    Prop where
  proposals : ∀ proposalId, store'.getProposal proposalId =
    match write.proposal? with
    | none => store.getProposal proposalId
    | some proposal =>
      if proposal.proposalId = proposalId then some proposal else store.getProposal proposalId
  events : store'.events = store.events ++ write.event?.toList

theorem committed_of_perform {write : RepositoryWrite}
    (hnew : ∀ event ∈ write.event?, store.EventUnused event.eventId)
    (h : store.perform write = .ok store') : Committed store write store' := by
  cases write with
  | createProposal proposal version event idempotency =>
    obtain ⟨versions, rfl⟩ := createProposal_eq_ok (hnew event rfl) h
    exact ⟨fun proposalId => lookup_upsert proposalId, rfl⟩
  | createVersion version =>
    simp only [perform, insertVersion, bind_eq_ok] at h
    obtain ⟨_, _, versions, _, h⟩ := h
    cases h
    exact ⟨fun _ => rfl, (List.append_nil _).symm⟩
  | transitionProposal proposal event approval expectedCurrentState expectedCurrentVersionNo =>
    obtain ⟨_, approvals, rfl⟩ := transitionProposal_eq_ok (hnew event rfl) h
    exact ⟨fun proposalId => lookup_upsert proposalId, rfl⟩

/-- How far a write can change the tables: proposals and versions stay, and new rows are those of
the write. -/
structure Grows (store : PostgresStore) (write : RepositoryWrite) (store' : PostgresStore) :
    Prop where
  proposals : ∀ proposalId proposal, store.getProposal proposalId = some proposal →
    ∃ proposal', store'.getProposal proposalId = some proposal'
  keepsVersions : store.versions ⊆ store'.versions
  versions : ∀ version ∈ store'.versions, version ∈ store.versions ∨ write.version? = some version
  events : ∀ event ∈ store'.events, event ∈ store.events ∨ write.event? = some event

theorem getProposal_upsert_isSome {proposalId : String} {stored : ProposalRecord}
    (h : store.getProposal proposalId = some stored) : ∃ stored',
      lookup ProposalRecord.proposalId (upsert ProposalRecord.proposalId store.proposals proposal)
        proposalId = some stored' := by
  rw [lookup_upsert]
  split
  · exact ⟨proposal, rfl⟩
  · exact ⟨stored, h⟩

theorem grows_of_perform {write : RepositoryWrite} (h : store.perform write = .ok store') :
    Grows store write store' := by
  cases write with
  | createProposal proposal version event idempotency =>
    simp only [perform, createProposalWithVersionEventIdempotency, bind_eq_ok,
      upsertProposal_eq_ok, insertProposalIdempotency_eq_ok, insertVersion, insertEvent] at h
    obtain ⟨_, ⟨_, rfl⟩, _, ⟨_, _, versions, hversions, ⟨⟩⟩, _, ⟨_, _, events, hevents, ⟨⟩⟩, _, _,
      rfl⟩ := h
    refine ⟨fun _ _ hp => getProposal_upsert_isSome hp, subset_insertOnce hversions, ?_, ?_⟩
    · intro stored hstored
      exact (mem_insertOnce hversions hstored).imp id fun heq => congrArg some heq.symm
    · intro stored hstored
      exact (mem_insertOnce hevents hstored).imp id fun heq => congrArg some heq.symm
  | createVersion version =>
    simp only [perform, insertVersion, bind_eq_ok] at h
    obtain ⟨_, _, versions, hversions, h⟩ := h
    cases h
    refine ⟨fun _ proposal hp => ⟨proposal, hp⟩, subset_insertOnce hversions, ?_, fun _ => .inl⟩
    intro stored hstored
    exact (mem_insertOnce hversions hstored).imp id fun heq => congrArg some heq.symm
  | transitionProposal proposal event approval expectedCurrentState expectedCurrentVersionNo =>
    simp only [perform, transitionProposal, bind_eq_ok, updateProposalIfCurrent_eq_ok,
      insertEvent] at h
    obtain ⟨_, ⟨_, _, rfl⟩, _, ⟨_, _, events, hevents, ⟨⟩⟩, h⟩ := h
    have hgrows : Grows store (.transitionProposal proposal event approval expectedCurrentState
        expectedCurrentVersionNo) { store with
          proposals := upsert ProposalRecord.proposalId store.proposals proposal
          events } := by
      refine ⟨fun _ _ hp => getProposal_upsert_isSome hp, List.Subset.refl _, fun _ => .inl, ?_⟩
      intro stored hstored
      exact (mem_insertOnce hevents hstored).imp id fun heq => congrArg some heq.symm
    cases approval with
    | none =>
      cases h
      exact hgrows
    | some approval =>
      obtain ⟨approvals, rfl⟩ := insertApproval_eq_ok h
      exact ⟨hgrows.proposals, hgrows.keepsVersions, hgrows.versions, hgrows.events⟩

theorem Committed.committedEvents {write : RepositoryWrite} (h : Committed store write store')
    (proposalId : String) : store'.committedEvents proposalId =
      store.committedEvents proposalId ++
        write.event?.toList.filter fun event => event.proposalId = proposalId := by
  rw [PostgresStore.committedEvents, h.events, List.filter_append]
  rfl

end Transactions

end PostgresStore

/-- The repository of a database whose texts are compared in the given collation. -/
def postgresRepository (collation : LinearOrder String) : ProposalRepository PostgresStore where
  getIdempotency store idempotencyKey := store.getProposalIdempotency idempotencyKey
  getProposal store proposalId := store.getProposal proposalId
  getVersion store proposalId versionNo := store.getVersion proposalId versionNo
  listEvents store proposalId := store.listEvents collation proposalId
  listApprovals store proposalId := store.listApprovals collation proposalId
  perform := PostgresStore.perform

open Interleaving

abbrev postgresLifecycle (config : ServiceConfig) (services : Services)
    (collation : LinearOrder String) :
    Protocol PostgresStore Call RepositoryWrite ProposalResponse ProposalError :=
  lifecycle config services (postgresRepository collation)

@[simp] theorem postgresLifecycle_perform (config : ServiceConfig) (services : Services)
    (collation : LinearOrder String) :
    (postgresLifecycle config services collation).perform = PostgresStore.perform := rfl

/-- The collation that compares texts by their code points. -/
abbrev Sample.codePoints : LinearOrder String := inferInstance

end LotusAdvise.Proposals

import LotusAdvise.Proposals.InMemory
import LotusAdvise.Proposals.Postgres

/-! # Idempotent creation

Creations with one payload under one idempotency key should make one proposal. Each looks
the key up first and binds it in a later write, which replaces the binding it finds. The
argument needs little of a repository, so it is made once for both.
-/

namespace LotusAdvise.Proposals

open Interleaving Runs

/-- A creation of the payload under the key, with the identifiers it draws. -/
structure CreateRetry (payload : ProposalCreateRequest) (key : String)
    (Drawable : Generated → Prop) where
  arguments : CreateProposalArguments
  generated : Generated
  samePayload : arguments.payload = payload
  sameKey : normalizeOptionalIdempotencyKey arguments.idempotencyKey = some key
  drawable : Drawable generated

/-- Records are found under their own identifiers. -/
structure KeyedReads {S : Type} (repository : ProposalRepository S) (store : S) : Prop where
  proposal : ∀ proposalId proposal, repository.getProposal store proposalId = some proposal →
    proposal.proposalId = proposalId
  version : ∀ proposalId versionNo version,
    repository.getVersion store proposalId versionNo = some version → version.versionNo = versionNo

/-- What a committed creation changes for later reads. -/
structure CreatedReads {S : Type} (repository : ProposalRepository S) (store : S)
    (proposal : ProposalRecord) (idempotency : ProposalIdempotencyRecord) (store' : S) : Prop where
  getProposal : ∀ proposalId, repository.getProposal store' proposalId =
    if proposal.proposalId = proposalId then some proposal
    else repository.getProposal store proposalId
  getIdempotency : ∀ idempotencyKey, repository.getIdempotency store' idempotencyKey =
    if idempotency.idempotencyKey = idempotencyKey then some idempotency
    else repository.getIdempotency store idempotencyKey
  keyed : KeyedReads repository store → KeyedReads repository store'

/-- What creations need of a repository: under identifiers that are `Fresh` in a store they are
always committed, and they leave those fresh that other commands drew. -/
structure CreateLaws {S : Type} (repository : ProposalRepository S)
    (Fresh : S → Generated → Prop) : Prop where
  unstored : ∀ store generated, Fresh store generated →
    repository.getProposal store generated.proposalId = none
  commits : ∀ store call proposal version event idempotency, Fresh store call.generated →
    RecordsCreation call proposal version event idempotency →
    ∃ store', repository.perform store (.createProposal proposal version event idempotency) =
        .ok store' ∧
      CreatedReads repository store proposal idempotency store' ∧
      ∀ generated, call.generated.apart generated = true → Fresh store generated →
        Fresh store' generated

section Creates

variable {S : Type} (config : ServiceConfig) (services : Services)
  (repository : ProposalRepository S) (payload : ProposalCreateRequest) (key : String)
  {Drawable : Generated → Prop}

def CreateRetry.call {payload : ProposalCreateRequest} {key : String}
    (retry : CreateRetry payload key Drawable) : Call :=
  ⟨.create retry.arguments, retry.generated⟩

/-- Any number of threads that create the payload under the key. -/
def creates (Drawable : Generated → Prop) :
    Protocol S (CreateRetry payload key Drawable) RepositoryWrite ProposalResponse ProposalError :=
  (lifecycle config services repository).comap CreateRetry.call

/-- The proposals of the key: the one it was bound to at first, and those created since. -/
def OfKey (first store : S) (proposalId : String) : Prop :=
  (∃ bound, repository.getIdempotency first key = some bound ∧ bound.proposalId = proposalId) ∨
    repository.getProposal first proposalId = none ∧
      ∃ proposal, repository.getProposal store proposalId = some proposal

/-- The key has one proposal at most, and all creations that returned name the same one. -/
structure CreatedOnce {payload : ProposalCreateRequest} (first : S)
    (pool : Pool S (CreateRetry payload key Drawable) RepositoryWrite ProposalResponse
      ProposalError) : Prop where
  proposals : ∀ a b, OfKey repository key first pool.store a →
    OfKey repository key first pool.store b → a = b
  responses : ∀ i j retry retry' response response',
    pool.thread i = .returned retry (.create response) →
    pool.thread j = .returned retry' (.create response') →
    response.proposal.proposalId = response'.proposal.proposalId ∧
      response.version.versionNo = response'.version.versionNo

/-- A creation that writes finds the key still unbound. -/
def StillUnbound {payload : ProposalCreateRequest} (store : S)
    (_ : CreateRetry payload key Drawable) (_ : RepositoryWrite) : Prop :=
  repository.getIdempotency store key = none

instance (store : S) (retry : CreateRetry payload key Drawable) (write : RepositoryWrite) :
    Decidable (StillUnbound repository key store retry write) := by
  unfold StillUnbound
  infer_instance

end Creates

section Invariant

variable {S : Type} {config : ServiceConfig} {services : Services}
  {repository : ProposalRepository S} {Fresh : S → Generated → Prop}
  {payload : ProposalCreateRequest} {key : String} {first store store' : S}
  {retry : CreateRetry payload key (Fresh first)} {proposal : ProposalRecord}
  {version : ProposalVersionRecord} {event : ProposalWorkflowEventRecord}
  {idempotency : ProposalIdempotencyRecord}

/-- What a creation records that has found the key unbound. -/
structure RecordsRetry (repository : ProposalRepository S) (first : S)
    (retry : CreateRetry payload key (Fresh first)) (proposal : ProposalRecord)
    (version : ProposalVersionRecord) (event : ProposalWorkflowEventRecord)
    (idempotency : ProposalIdempotencyRecord) : Prop where
  unbound : repository.getIdempotency first key = none
  keyed : idempotency.idempotencyKey = key
  records : RecordsCreation retry.call proposal version event idempotency

/-- The store before a creation was committed, or after the first one. -/
inductive CreateProgress (repository : ProposalRepository S) (Fresh : S → Generated → Prop)
    (first : S) : S → List (CreateRetry payload key (Fresh first)) → Prop where
  | before {started : List (CreateRetry payload key (Fresh first))} :
    CreateProgress repository Fresh first first started
  | after {started : List (CreateRetry payload key (Fresh first))} {store : S}
    {retry : CreateRetry payload key (Fresh first)} {proposal : ProposalRecord}
    {version : ProposalVersionRecord} {event : ProposalWorkflowEventRecord}
    {idempotency : ProposalIdempotencyRecord} (mem : retry ∈ started)
    (records : RecordsRetry repository first retry proposal version event idempotency)
    (reads : CreatedReads repository first proposal idempotency store)
    (fresh : ∀ generated, retry.generated.apart generated = true → Fresh first generated →
      Fresh store generated) :
    CreateProgress repository Fresh first store started

/-- The key is bound to the proposal and the version that a response names. -/
def BoundTo (repository : ProposalRepository S) (key : String) (store : S)
    (response : ProposalCreateResponse) : Prop :=
  ∃ bound, repository.getIdempotency store key = some bound ∧
    bound.proposalId = response.proposal.proposalId ∧
    bound.proposalVersionNo = response.version.versionNo

/-- A thread draws fresh identifiers, writes what it decided on the first store, and returns what
the key is bound to. -/
inductive Creating (repository : ProposalRepository S) (Fresh : S → Generated → Prop)
    (first store : S) : Thread (CreateRetry payload key (Fresh first)) RepositoryWrite
      ProposalResponse ProposalError → Prop where
  | idle : Creating repository Fresh first store .idle
  | reading {retry : CreateRetry payload key (Fresh first)}
    (fresh : Fresh store retry.generated) : Creating repository Fresh first store (.reading retry)
  | writing {retry : CreateRetry payload key (Fresh first)} {proposal : ProposalRecord}
    {version : ProposalVersionRecord} {event : ProposalWorkflowEventRecord}
    {idempotency : ProposalIdempotencyRecord} (fresh : Fresh store retry.generated)
    (records : RecordsRetry repository first retry proposal version event idempotency) :
    Creating repository Fresh first store
      (.writing retry (.createProposal proposal version event idempotency) []
        (.create (toCreateResponse proposal version event)))
  | returned {retry : CreateRetry payload key (Fresh first)} {response : ProposalCreateResponse}
    (bound : BoundTo repository key store response) :
    Creating repository Fresh first store (.returned retry (.create response))
  | raised {retry : CreateRetry payload key (Fresh first)} {error : ProposalError} :
    Creating repository Fresh first store (.raised retry error)

/-- A replayed response names what it was asked for. -/
theorem names_of_replay {proposalId : String} {versionNo : ℕ} {response : ProposalCreateResponse}
    (hkeyed : KeyedReads repository store)
    (h : buildCreateResponseFromReplayReferents repository store proposalId versionNo =
      .ok response) :
    response.proposal.proposalId = proposalId ∧ response.version.versionNo = versionNo := by
  simp only [buildCreateResponseFromReplayReferents, buildCreateResponseFromReferents] at h
  rcases hp : repository.getProposal store proposalId with _ | p
  · simp [hp] at h
  rcases hv : repository.getVersion store proposalId versionNo with _ | v
  · simp [hp, hv] at h
  rcases he : (repository.listEvents store proposalId).getLast? with _ | e
  · simp [hp, hv, he] at h
  simp only [hp, hv, he, Except.ok.injEq] at h
  subst h
  exact ⟨hkeyed.proposal _ _ hp, hkeyed.version _ _ _ hv⟩

/-- A store in which the key is unbound is the first one. -/
theorem CreateProgress.eq_first {started : List (CreateRetry payload key (Fresh first))}
    (h : CreateProgress repository Fresh first store started)
    (hnone : repository.getIdempotency store key = none) : store = first := by
  cases h with
  | before => rfl
  | after mem records reads fresh =>
    rw [reads.getIdempotency, if_pos records.keyed] at hnone
    cases hnone

theorem creating_afterRead {started : List (CreateRetry payload key (Fresh first))}
    (hkeyed : KeyedReads repository store)
    (hprogress : CreateProgress repository Fresh first store started)
    (hfresh : Fresh store retry.generated) :
    Creating repository Fresh first store
      (.afterRead retry ((creates config services repository payload key _).decide store retry)) := by
  rcases hd : (creates config services repository payload key _).decide store retry with
    e | r | ⟨w, rest, r⟩
  · exact .raised
  · obtain ⟨key', hkey', ⟨existing, response, hbound, _, hresponse, hout⟩ | ⟨_, _, _, _, hout⟩⟩ :=
      createProposalCommand_eq_ok hd
    · cases hout
      obtain rfl := Option.some.inj (retry.sameKey.symm.trans hkey')
      obtain ⟨hid, hno⟩ := names_of_replay hkeyed hresponse
      exact .returned ⟨existing, hbound, hid.symm, hno.symm⟩
    · cases hout
  · have hplan : decideCommand config services repository store retry.call =
        .ok (.write w rest r) := hd
    cases planned_of_decide hplan with
    | @create arguments proposal version event idempotency command hkey _ unbound records =>
      obtain rfl : retry.arguments = arguments := by
        simpa [CreateRetry.call] using command
      have hsame := Option.some.inj (retry.sameKey.symm.trans hkey)
      rw [← hsame] at unbound
      have hfirst := hprogress.eq_first unbound
      exact .writing hfresh ⟨hfirst ▸ unbound, hsame.symm, records⟩
    | version command => cases command
    | move command => cases command

/-- The committed creation binds the key to what it answers. -/
theorem RecordsRetry.bound
    (h : RecordsRetry repository first retry proposal version event idempotency)
    (hreads : CreatedReads repository store proposal idempotency store') :
    BoundTo repository key store' (toCreateResponse proposal version event) := by
  refine ⟨idempotency, ?_, ?_, ?_⟩
  · rw [hreads.getIdempotency, if_pos h.keyed]
  · exact h.records.idempotencyProposalId.trans h.records.proposalId.symm
  · exact h.records.idempotencyVersionNo.trans h.records.versionNo.symm

theorem create_outline (laws : CreateLaws repository Fresh) :
    (creates config services repository payload key (Fresh first)).Outline
      (fun store started => KeyedReads repository store ∧
        CreateProgress repository Fresh first store started)
      (Creating repository Fresh first) (fun _ => True) (StillUnbound repository key) where
  idle _ := .idle
  start store started retry hI _ hapart := by
    obtain ⟨hkeyed, hprogress⟩ := hI
    cases hprogress with
    | before => exact ⟨⟨hkeyed, .before⟩, .reading retry.drawable⟩
    | after mem records reads fresh =>
      refine ⟨⟨hkeyed, .after (List.mem_cons_of_mem _ mem) records reads fresh⟩, .reading ?_⟩
      exact fresh _ (Generated.apart_symm (hapart _ mem)) retry.drawable
  read store started retry hI _ hT := by
    cases hT with
    | reading fresh => exact creating_afterRead hI.1 hI.2 fresh
  write store started retry write rest response store' hI hretry hT hG hw := by
    cases hT with
    | writing fresh records =>
      obtain ⟨hkeyed, hprogress⟩ := hI
      obtain rfl := hprogress.eq_first hG
      obtain ⟨after, hafter, hreads, hkeep⟩ := laws.commits _ _ _ _ _ _ fresh records.records
      obtain rfl := Except.ok.inj (hafter.symm.trans hw)
      exact ⟨⟨hreads.keyed hkeyed, .after hretry records hreads hkeep⟩,
        .returned (records.bound hreads)⟩
  fail _ _ _ _ _ _ _ _ _ _ := .raised
  stable store started retry write rest response store' t hI hT hG hw ht hapart := by
    cases hT with
    | writing fresh records =>
      obtain ⟨after, hafter, hreads, hkeep⟩ := laws.commits _ _ _ _ _ _ fresh records.records
      obtain rfl := Except.ok.inj (hafter.symm.trans hw)
      cases ht with
      | idle => exact .idle
      | reading fresh => exact .reading (hkeep _ (hapart _ rfl) fresh)
      | writing fresh records => exact .writing (hkeep _ (hapart _ rfl) fresh) records
      | returned bound =>
        obtain ⟨_, hbound, _⟩ := bound
        cases hG.symm.trans hbound
      | raised => exact .raised

theorem CreateProgress.ofKey_unique {started : List (CreateRetry payload key (Fresh first))}
    (h : CreateProgress repository Fresh first store started) {a b : String}
    (ha : OfKey repository key first store a) (hb : OfKey repository key first store b) : a = b := by
  cases h with
  | before =>
    have bound : ∀ {c}, OfKey repository key first first c → ∃ record,
        repository.getIdempotency first key = some record ∧ record.proposalId = c := by
      rintro c (hbound | ⟨hnone, p, hsome⟩)
      · exact hbound
      · cases hnone.symm.trans hsome
    obtain ⟨record, hrecord, rfl⟩ := bound ha
    obtain ⟨other, hother, rfl⟩ := bound hb
    rw [Option.some.inj (hrecord.symm.trans hother)]
  | @after _ _ retry proposal _ _ _ mem records reads fresh =>
    have created : ∀ {c}, OfKey repository key first store c → c = proposal.proposalId := by
      rintro c (⟨record, hrecord, _⟩ | ⟨hnone, p, hsome⟩)
      · cases records.unbound.symm.trans hrecord
      · rw [reads.getProposal] at hsome
        split at hsome
        · next hid => exact hid.symm
        · cases hnone.symm.trans hsome
    rw [created ha, created hb]

/-- A creation that is committed beside another one makes a second proposal of the key. -/
theorem CreateProgress.unbound {started : List (CreateRetry payload key (Fresh first))}
    (laws : CreateLaws repository Fresh)
    (h : CreateProgress repository Fresh first store started)
    (hfresh : Fresh store retry.generated)
    (records : RecordsRetry repository first retry proposal version event idempotency)
    (hreads : CreatedReads repository store proposal idempotency store')
    (honce : ∀ a b, OfKey repository key first store' a → OfKey repository key first store' b →
      a = b) : repository.getIdempotency store key = none := by
  cases h with
  | before => exact records.unbound
  | @after _ _ earlier earlierProposal _ _ _ _ earlierRecords earlierReads _ =>
    exfalso
    have hid : proposal.proposalId = retry.generated.proposalId := records.records.proposalId
    have hearlier : earlierProposal.proposalId = earlier.generated.proposalId :=
      earlierRecords.records.proposalId
    have hstored : repository.getProposal store earlierProposal.proposalId = some earlierProposal := by
      rw [earlierReads.getProposal, if_pos rfl]
    have hne : proposal.proposalId ≠ earlierProposal.proposalId := by
      intro heq
      have hunstored := laws.unstored store retry.generated hfresh
      rw [← hid, heq, hstored] at hunstored
      cases hunstored
    refine hne (honce _ _ (.inr ⟨?_, proposal, ?_⟩) (.inr ⟨?_, earlierProposal, ?_⟩))
    · rw [hid]
      exact laws.unstored first _ retry.drawable
    · rw [hreads.getProposal, if_pos rfl]
    · rw [hearlier]
      exact laws.unstored first _ earlier.drawable
    · rw [hreads.getProposal, if_neg hne, hstored]

/-- A pool that meets the outline has created once. -/
theorem createdOnce_of_holds
    {pool : Pool S (CreateRetry payload key (Fresh first)) RepositoryWrite ProposalResponse
      ProposalError}
    (h : (creates config services repository payload key (Fresh first)).Holds
      (fun store started => KeyedReads repository store ∧
        CreateProgress repository Fresh first store started)
      (Creating repository Fresh first) pool) : CreatedOnce repository key first pool where
  proposals _ _ ha hb := h.store.2.ofKey_unique ha hb
  responses i j retry retry' response response' hi hj := by
    have hreturned := h.threads i
    have hreturned' := h.threads j
    rw [hi] at hreturned
    rw [hj] at hreturned'
    cases hreturned with
    | returned bound =>
      cases hreturned' with
      | returned bound' =>
        obtain ⟨record, hrecord, hid, hno⟩ := bound
        obtain ⟨record', hrecord', hid', hno'⟩ := bound'
        obtain rfl := Option.some.inj (hrecord.symm.trans hrecord')
        exact ⟨hid.symm.trans hid', hno.symm.trans hno'⟩

/-- Over a repository with the laws, creations under a key are idempotent exactly when each that
writes finds the key still unbound. -/
theorem createdOnce_iff_of_laws (laws : CreateLaws repository Fresh)
    (hkeyed : KeyedReads repository first)
    (labels : List (Label (CreateRetry payload key (Fresh first)))) :
    EveryState (creates config services repository payload key (Fresh first)).step
        (CreatedOnce repository key first) (.initial first) labels ↔
      EveryStep (creates config services repository payload key (Fresh first)).step
        (Protocol.Guard (fun _ => True) (StillUnbound repository key)) (.initial first) labels := by
  have outline : (creates config services repository payload key (Fresh first)).Outline _ _ _
      (StillUnbound repository key) := create_outline laws
  have hinitial := outline.holds_initial ⟨hkeyed, .before⟩
  refine everyState_iff_of_invariant (fun _ _ _ hs hstep hq => outline.holds_step hs hstep hq)
    (fun pool label after hs hstep => ⟨fun honce => ?_, fun hq => ?_⟩) hinitial
    (createdOnce_of_holds hinitial)
  · cases Protocol.steps_of_step _ hstep with
    | start => trivial
    | read i retry thread => simp only [Protocol.Guard, thread]
    | fail i retry w rest r e thread refused =>
      have hT := hs.threads i
      rw [thread] at hT
      cases hT with
      | writing fresh records =>
        obtain ⟨_, hok, _⟩ := laws.commits _ _ _ _ _ _ fresh records.records
        cases hok.symm.trans refused
    | write i retry w rest r store' thread done =>
      have hT := hs.threads i
      rw [thread] at hT
      simp only [Protocol.Guard, thread]
      cases hT with
      | writing fresh records =>
        obtain ⟨_, hok, hreads, _⟩ := laws.commits _ _ _ _ _ _ fresh records.records
        obtain rfl := Except.ok.inj (hok.symm.trans done)
        exact hs.store.2.unbound laws fresh records hreads honce.proposals
  · exact createdOnce_of_holds (outline.holds_step hs hstep hq)

end Invariant

/-- A creation needs an identifier that no proposal in memory has. -/
theorem inMemory_createLaws : CreateLaws inMemoryRepository fun store generated =>
    store.proposals generated.proposalId = none where
  unstored _ _ h := h
  commits store call proposal version event idempotency _ records := by
    refine ⟨store.created proposal version event idempotency, rfl, ⟨fun proposalId => ?_,
      fun idempotencyKey => ?_, fun hkeyed => ⟨?_, ?_⟩⟩, fun generated hapart hfresh => ?_⟩
    · show Function.update store.proposals proposal.proposalId (some proposal) proposalId = _
      rw [Function.update_apply]
      simp only [eq_comm]
      rfl
    · show Function.update store.idempotency idempotency.idempotencyKey (some idempotency)
        idempotencyKey = _
      rw [Function.update_apply]
      simp only [eq_comm]
      rfl
    · have hids : IdsMatch (store.created proposal version event idempotency) :=
        IdsMatch.update hkeyed.proposal InMemoryStore.created_proposals
      exact hids
    · intro proposalId versionNo v hv
      have hv : Function.update store.versions (version.proposalId, version.versionNo)
        (some version) (proposalId, versionNo) = some v := hv
      rw [Function.update_apply] at hv
      split at hv
      · next heq =>
        cases hv
        exact (congrArg Prod.snd heq).symm
      · exact hkeyed.version _ _ _ hv
    · have hne := (Generated.apart_iff.mp hapart).2.2.2.1
      rw [InMemoryStore.created_proposals, records.proposalId, Function.update_of_ne hne.symm]
      exact hfresh

/-- Reads of the database are keyed by their queries. -/
theorem postgres_keyedReads (collation : LinearOrder String) (store : PostgresStore) :
    KeyedReads (postgresRepository collation) store where
  proposal _ _ h := (Tables.lookup_some h).2
  version _ _ _ h := congrArg Prod.snd (Tables.lookup_some h).2

theorem postgres_createLaws (collation : LinearOrder String) :
    CreateLaws (postgresRepository collation) PostgresStore.Unused where
  unstored _ _ h := h.proposal
  commits store call proposal version event idempotency hunused records := by
    refine ⟨_, PostgresStore.createProposal_of_unused hunused records,
      ⟨fun proposalId => Tables.lookup_upsert proposalId,
        fun idempotencyKey => Tables.lookup_upsert idempotencyKey,
        fun _ => postgres_keyedReads collation _⟩, fun generated hapart hfresh => ?_⟩
    obtain ⟨hevent, _, _, hproposal, hversion⟩ := Generated.apart_iff.mp hapart
    refine ⟨?_, ?_, ?_, ?_⟩
    · refine (Tables.lookup_upsert _).trans ?_
      rw [if_neg]
      · exact hfresh.proposal
      · rwa [records.proposalId]
    · intro stored hmem
      rcases List.mem_append.mp hmem with hold | hnew
      · exact hfresh.slots stored hold
      · rw [List.mem_singleton.mp hnew, records.versionProposalId]
        exact hproposal
    · intro stored hmem
      rcases List.mem_append.mp hmem with hold | hnew
      · exact hfresh.version stored hold
      · rw [List.mem_singleton.mp hnew, records.versionId]
        exact hversion
    · intro stored hmem
      rcases List.mem_append.mp hmem with hold | hnew
      · exact hfresh.event stored hold
      · rw [List.mem_singleton.mp hnew, records.eventId]
        exact hevent

/-- Concurrent creations with one payload under one key make one proposal and answer with it, in
memory and in the database, exactly when each that writes finds the key still unbound. -/
theorem created_once_iff (config : ServiceConfig) (services : Services)
    (payload : ProposalCreateRequest) (key : String) :
    (∀ (store : InMemoryStore), KeyedReads inMemoryRepository store →
      ∀ labels : List (Label (CreateRetry payload key fun generated =>
        store.proposals generated.proposalId = none)),
      EveryState (creates config services inMemoryRepository payload key _).step
          (CreatedOnce inMemoryRepository key store) (.initial store) labels ↔
        EveryStep (creates config services inMemoryRepository payload key _).step
          (Protocol.Guard (fun _ => True) (StillUnbound inMemoryRepository key))
          (.initial store) labels) ∧
    ∀ (collation : LinearOrder String) (store : PostgresStore)
      (labels : List (Label (CreateRetry payload key store.Unused))),
      EveryState (creates config services (postgresRepository collation) payload key _).step
          (CreatedOnce (postgresRepository collation) key store) (.initial store) labels ↔
        EveryStep (creates config services (postgresRepository collation) payload key _).step
          (Protocol.Guard (fun _ => True) (StillUnbound (postgresRepository collation) key))
          (.initial store) labels :=
  ⟨fun _ hkeyed labels => createdOnce_iff_of_laws inMemory_createLaws hkeyed labels,
    fun collation _ labels => createdOnce_iff_of_laws (postgres_createLaws collation)
      (postgres_keyedReads collation _) labels⟩

/-- A creation under `key-1` by the `n`-th caller. -/
def createRetry {Drawable : Generated → Prop} (n : ℕ)
    (drawable : Drawable (Sample.drawn n (Sample.clock 0))) :
    CreateRetry { createdBy := "advisor_1", dump := [] } "key-1" Drawable where
  arguments :=
    { payload := { createdBy := "advisor_1", dump := [] }, idempotencyKey := some "key-1" }
  generated := Sample.drawn n (Sample.clock 0)
  samePayload := rfl
  sameKey := by decide +kernel
  drawable := drawable

/-- One creation is committed before the other starts. -/
def orderlyCreations (Drawable : Generated → Prop)
    (drawable : ∀ n, Drawable (Sample.drawn n (Sample.clock 0))) :
    List (Label (CreateRetry { createdBy := "advisor_1", dump := [] } "key-1" Drawable)) :=
  [.start 0 (createRetry 0 (drawable 0)), .advance 0, .advance 0,
    .start 1 (createRetry 1 (drawable 1)), .advance 1]

theorem created_once_orderly : KeyedReads inMemoryRepository .empty ∧
    EveryState (creates Sample.config Sample.services inMemoryRepository _ "key-1" _).step
      (CreatedOnce inMemoryRepository "key-1" .empty) (.initial .empty)
      (orderlyCreations (fun generated => InMemoryStore.empty.proposals generated.proposalId = none)
        fun _ => rfl) := by
  have hkeyed : KeyedReads inMemoryRepository .empty := by
    constructor
    · rintro _ _ ⟨⟩
    · rintro _ _ _ ⟨⟩
  refine ⟨hkeyed, ((created_once_iff _ _ _ _).1 _ hkeyed _).mpr ?_⟩
  decide +kernel

/-- Both creations look the key up before either binds it. -/
def overlappingCreations (Drawable : Generated → Prop)
    (drawable : ∀ n, Drawable (Sample.drawn n (Sample.clock 0))) :
    List (Label (CreateRetry { createdBy := "advisor_1", dump := [] } "key-1" Drawable)) :=
  [.start 0 (createRetry 0 (drawable 0)), .start 1 (createRetry 1 (drawable 1)), .advance 0,
    .advance 1, .advance 0, .advance 1]

theorem created_once_overlapping :
    ∃ pool, run (creates Sample.config Sample.services inMemoryRepository _ "key-1" _).step
      (.initial .empty) (overlappingCreations
        (fun generated => InMemoryStore.empty.proposals generated.proposalId = none) fun _ => rfl) =
          some pool ∧ ¬ CreatedOnce inMemoryRepository "key-1" .empty pool := by
  have hview : ((run (creates Sample.config Sample.services inMemoryRepository _ "key-1" _).step
      (.initial .empty) (overlappingCreations
        (fun generated => InMemoryStore.empty.proposals generated.proposalId = none)
        fun _ => rfl)).map fun pool =>
          ((pool.store.proposals "pp_000").isSome, (pool.store.proposals "pp_001").isSome)) =
      some (true, true) := by decide +kernel
  obtain ⟨pool, hrun, hview⟩ := Option.map_eq_some_iff.mp hview
  obtain ⟨hfirst, hsecond⟩ := Prod.mk.inj hview
  refine ⟨pool, hrun, fun honce => ?_⟩
  have hsame := honce.proposals "pp_000" "pp_001" (.inr ⟨rfl, Option.isSome_iff_exists.mp hfirst⟩)
    (.inr ⟨rfl, Option.isSome_iff_exists.mp hsecond⟩)
  exact absurd hsame (by decide)

end LotusAdvise.Proposals

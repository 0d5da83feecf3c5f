import LotusAdvise.Proposals.Memos

/-! # Idempotency of memo creation

A call that ended with a memo is kept for its key when the key points to its request and to
that memo. Neither repository ever replaces a key or a memo, so a later call with the key is
answered with the memo, or refused, as long as the key was kept. The write of a call breaks
this when it goes through although another call has meanwhile bound the key to something
else (Postgres inserts nothing for the key), or stored another memo under the identifier (in
memory the memo is not stored).
-/

namespace LotusAdvise.Proposals

open Runs Workers

section Definitions

variable {S : Type*} (services : MemoServices) (repository : MemoRepository S)

/-- A call that starts after another one has returned for the same key returns the memo of that one
when it has the same request hash, and is refused when it has another; stored keys do not change. -/
def ReturnsAgain (pool : Pool S MemoStage) : Prop :=
  ∀ later after, run (memoCalls services repository).next pool later = some after →
    (∀ i request result key, pool.worker i = some (.ended request (.ok result)) →
      request.key? = some key → ∀ j request' outcome, pool.worker j = none →
        after.worker j = some (.ended request' outcome) → request'.key? = some key →
          if request'.requestHash services = request.requestHash services then
            ∃ result', outcome = .ok result' ∧ result'.memo = result.memo
          else outcome = .error memoIdempotencyKeyConflict) ∧
    ∀ key record, repository.getMemoIdempotency pool.store key = some record →
      repository.getMemoIdempotency after.store key = some record

/-- A write with a key that goes through finds the key free or bound to its own request and memo,
and the identifier of the memo free or taken by this very memo. -/
def WritesOwnMemo (store : S) (stage : MemoStage) (_ : Unit) : Prop :=
  match stage with
  | .saveKey request key existing =>
    (repository.saveMemoIdempotency store
      (request.idempotencyRecord services key existing)).isOk →
    ∀ record ∈ repository.getMemoIdempotency store key,
      record.requestHash = request.requestHash services ∧ record.memoId = existing.memoId
  | .createMemo request memo =>
    ∀ key ∈ request.key?,
      (repository.createMemoWithIdempotencyEvent store memo
        (request.optionalIdempotencyRecord services memo)
        (request.createdEvent services memo)).isOk →
      (∀ record ∈ repository.getMemoIdempotency store key,
        record.requestHash = request.requestHash services ∧ record.memoId = memo.memoId) ∧
      ∀ stored ∈ repository.getMemo store memo.memoId, stored = memo
  | _ => True

instance (store : S) (stage : MemoStage) (input : Unit) :
    Decidable (WritesOwnMemo services repository store stage input) := by
  unfold WritesOwnMemo
  cases stage <;> infer_instance

/-- The key of a call points to its request and to the memo that it returned. -/
def KeptFor (store : S) (request : MemoRequest) (memo : ProposalMemoRecord) : Prop :=
  ∀ key ∈ request.key?, ∃ record, repository.getMemoIdempotency store key = some record ∧
    record.requestHash = request.requestHash services ∧
    repository.getMemo store record.memoId = some memo

/-- What a call has seen still holds. -/
def StageHolds (store : S) : MemoStage → Prop
  | .lookUpKey request key => request.key? = some key
  | .fetchReplay request memoId => ∀ key ∈ request.key?, ∃ record,
    repository.getMemoIdempotency store key = some record ∧
      record.requestHash = request.requestHash services ∧ record.memoId = memoId
  | .saveKey request key existing => request.key? = some key ∧
    repository.getMemo store existing.memoId = some existing
  | .ended request (.ok result) => KeptFor services repository store request result.memo
  | _ => True

end Definitions

section Steps

variable {S : Type*} {services : MemoServices} {repository : MemoRepository S} {inv : S → Prop}
  {store store' : S} {stage stage' : MemoStage} {request : MemoRequest}
  {memo : ProposalMemoRecord} {key : String} {pool pool' : Pool S MemoStage}

/-- What is stored stays stored. -/
structure MemoRepository.Grows (repository : MemoRepository S) (store store' : S) : Prop where
  keys : ∀ key record, repository.getMemoIdempotency store key = some record →
    repository.getMemoIdempotency store' key = some record
  memos : ∀ memoId memo, repository.getMemo store memoId = some memo →
    repository.getMemo store' memoId = some memo

theorem MemoRepository.Grows.refl (repository : MemoRepository S) (store : S) :
    repository.Grows store store :=
  ⟨fun _ _ => id, fun _ _ => id⟩

theorem MemoRepository.Grows.trans {store'' : S} (h : repository.Grows store store')
    (h' : repository.Grows store' store'') : repository.Grows store store'' :=
  ⟨fun key record hr => h'.keys key record (h.keys key record hr),
    fun memoId memo hm => h'.memos memoId memo (h.memos memoId memo hm)⟩

theorem MemoRepository.Written.grows {idempotency : Option ProposalMemoIdempotencyRecord}
    {memo : Option ProposalMemoRecord} (h : repository.Written store store' idempotency memo) :
    repository.Grows store store' := by
  constructor
  · intro key record hrecord
    rw [h.keys, hrecord, Option.some_or]
  · intro memoId stored hstored
    rw [h.memos, hstored, Option.some_or]

/-- A key that is written is bound afterwards. -/
theorem MemoRepository.Written.bound {record : ProposalMemoIdempotencyRecord}
    {memo : Option ProposalMemoRecord}
    (h : repository.Written store store' (some record) memo) :
    ∃ bound, repository.getMemoIdempotency store' record.idempotencyKey = some bound := by
  rw [h.keys, Option.bind_some, if_pos rfl]
  cases repository.getMemoIdempotency store record.idempotencyKey with
  | none => exact ⟨record, rfl⟩
  | some existing => exact ⟨existing, rfl⟩

/-- A step of a call writes what the repository lets it write, or nothing. -/
theorem grows_of_step (hl : repository.Lawful inv) (hinv : inv store)
    (h : stepMemoCall services repository store stage () = some (store', stage')) :
    inv store' ∧ repository.Grows store store' := by
  have hsame : store' = store → inv store' ∧ repository.Grows store store' := by
    rintro rfl
    exact ⟨hinv, .refl repository _⟩
  cases stage with
  | lookUpKey request key => exact hsame (Prod.mk.inj (Option.some.inj h)).1.symm
  | fetchReplay request memoId => exact hsame (Prod.mk.inj (Option.some.inj h)).1.symm
  | findMemo request => exact hsame (Prod.mk.inj (Option.some.inj h)).1.symm
  | saveKey request key existing =>
    have h := Option.some.inj h
    split at h
    · exact hsame (Prod.mk.inj h).1.symm
    · next saved hsave =>
      obtain rfl := (Prod.mk.inj h).1
      obtain ⟨hinv', hwritten⟩ := hl.save _ _ _ hinv hsave
      exact ⟨hinv', hwritten.grows⟩
  | createMemo request memo =>
    have h := Option.some.inj h
    split at h
    · exact hsame (Prod.mk.inj h).1.symm
    · next saved hsave =>
      obtain rfl := (Prod.mk.inj h).1
      obtain ⟨hinv', hwritten⟩ := hl.create _ _ _ _ _ hinv hsave
      exact ⟨hinv', hwritten.grows⟩
  | ended => cases h
  | refused => cases h

theorem KeptFor.grows (h : KeptFor services repository store request memo)
    (hgrows : repository.Grows store store') : KeptFor services repository store' request memo := by
  intro key hkey
  obtain ⟨record, hrecord, hhash, hmemo⟩ := h key hkey
  exact ⟨record, hgrows.keys _ _ hrecord, hhash, hgrows.memos _ _ hmemo⟩

theorem StageHolds.grows (h : StageHolds services repository store stage)
    (hgrows : repository.Grows store store') : StageHolds services repository store' stage := by
  cases stage with
  | fetchReplay request memoId =>
    intro key hkey
    obtain ⟨record, hrecord, hsame⟩ := h key hkey
    exact ⟨record, hgrows.keys _ _ hrecord, hsame⟩
  | saveKey request key existing => exact ⟨h.1, hgrows.memos _ _ h.2⟩
  | ended request outcome =>
    cases outcome with
    | error => trivial
    | ok result => exact KeptFor.grows h hgrows
  | lookUpKey => exact h
  | findMemo => trivial
  | createMemo => trivial
  | refused => trivial

/-- After a save that went through, the key is kept exactly when it was free or the call's own. -/
theorem keptFor_save_iff (hl : repository.Lawful inv) (hinv : inv store)
    (hkey : request.key? = some key) (hmemo : repository.getMemo store memo.memoId = some memo)
    (h : repository.saveMemoIdempotency store (request.idempotencyRecord services key memo) =
      .ok store') :
    KeptFor services repository store' request memo ↔
      ∀ record ∈ repository.getMemoIdempotency store key,
        record.requestHash = request.requestHash services ∧ record.memoId = memo.memoId := by
  obtain ⟨-, hwritten⟩ := hl.save _ _ _ hinv h
  unfold KeptFor
  simp only [hkey, Option.mem_some_iff, forall_eq']
  rw [hwritten.keys]
  simp only [hwritten.memos, Option.bind_none, Option.or_none]
  rcases hstored : repository.getMemoIdempotency store key with _ | record
  · refine iff_of_true ⟨request.idempotencyRecord services key memo, ?_, rfl, hmemo⟩ (by simp)
    rw [Option.none_or, Option.bind_some]
    exact if_pos rfl
  · rw [Option.some_or]
    constructor
    · rintro ⟨_, ⟨⟩, hhash, hfound⟩ _ ⟨⟩
      exact ⟨hhash, (hl.memoId _ _ _ hinv hfound).symm⟩
    · intro hsame
      obtain ⟨hhash, hid⟩ := hsame record rfl
      exact ⟨record, rfl, hhash, by rw [hid, hmemo]⟩

/-- After a creation that went through, the key is kept exactly when it was free or the call's own,
and no other memo had the identifier. -/
theorem keptFor_create_iff (hl : repository.Lawful inv) (hinv : inv store)
    {event : ProposalMemoEventRecord}
    (h : repository.createMemoWithIdempotencyEvent store memo
      (request.optionalIdempotencyRecord services memo) event = .ok store') :
    KeptFor services repository store' request memo ↔ ∀ key ∈ request.key?,
      (∀ record ∈ repository.getMemoIdempotency store key,
        record.requestHash = request.requestHash services ∧ record.memoId = memo.memoId) ∧
      ∀ stored ∈ repository.getMemo store memo.memoId, stored = memo := by
  obtain ⟨-, hwritten⟩ := hl.create _ _ _ _ _ hinv h
  unfold KeptFor
  refine forall₂_congr fun key hkey => ?_
  have hmemos : ∀ memoId, repository.getMemo store' memoId = some memo ↔
      memoId = memo.memoId ∧ ∀ stored ∈ repository.getMemo store memo.memoId, stored = memo := by
    intro memoId
    rw [hwritten.memos, Option.bind_some, Option.or_eq_some_iff]
    constructor
    · rintro (hold | ⟨hnone, hnew⟩)
      · obtain rfl := hl.memoId _ _ _ hinv hold
        exact ⟨rfl, fun stored hstored => Option.some.inj (hstored.symm.trans hold)⟩
      · split at hnew
        · next heq =>
          subst heq
          exact ⟨rfl, fun stored hstored => by rw [hnone] at hstored; cases hstored⟩
        · cases hnew
    · rintro ⟨rfl, hown⟩
      rcases hstored : repository.getMemo store memo.memoId with _ | stored
      · exact .inr ⟨rfl, if_pos rfl⟩
      · exact .inl (congrArg some (hown stored hstored))
  have hrecord : request.optionalIdempotencyRecord services memo =
      some (request.idempotencyRecord services key memo) := by
    rw [MemoRequest.optionalIdempotencyRecord, Option.mem_def.mp hkey, Option.map_some]
  simp only [hwritten.keys, hmemos, hrecord, Option.bind_some]
  rcases hstored : repository.getMemoIdempotency store key with _ | record
  · rw [Option.none_or]
    constructor
    · rintro ⟨_, -, -, -, hown⟩
      exact ⟨by simp, hown⟩
    · rintro ⟨-, hown⟩
      exact ⟨_, if_pos rfl, rfl, rfl, hown⟩
  · rw [Option.some_or]
    constructor
    · rintro ⟨_, ⟨⟩, hhash, hid, hown⟩
      exact ⟨by rintro _ ⟨⟩; exact ⟨hhash, hid⟩, hown⟩
    · rintro ⟨hsame, hown⟩
      obtain ⟨hhash, hid⟩ := hsame record rfl
      exact ⟨record, rfl, hhash, hid, hown⟩

theorem startMemoCall_of_request (request : MemoRequest) :
    startMemoCall request.call = request.firstStage := by
  unfold startMemoCall
  split
  · next error h =>
    rw [request.supported] at h
    cases h
  · next lifecycleStatus h =>
    obtain rfl := Except.ok.inj (request.supported.symm.trans h)
    rfl

/-- What holds of every first stage holds of the start of a call. -/
theorem startMemoCall_induction {P : MemoStage → Prop} (hrefused : ∀ call error, P (.refused call error))
    (hkey : ∀ request key, request.key? = some key → P (.lookUpKey request key))
    (hkeyless : ∀ request, request.key? = none → P (.findMemo request)) (call : MemoCall) :
    P (startMemoCall call) := by
  unfold startMemoCall
  split
  · exact hrefused call _
  · next lifecycleStatus h =>
    unfold MemoRequest.firstStage
    split
    · next key hsome => exact hkey _ key hsome
    · next hnone => exact hkeyless _ hnone

/-- What a call has seen holds after its own step when the step writes its own memo. -/
theorem stageHolds_step (hl : repository.Lawful inv) (hinv : inv store)
    (hs : StageHolds services repository store stage)
    (hown : WritesOwnMemo services repository store stage ())
    (h : stepMemoCall services repository store stage () = some (store', stage')) :
    StageHolds services repository store' stage' := by
  cases stage with
  | lookUpKey request key =>
    obtain ⟨rfl, rfl⟩ := Prod.mk.inj (Option.some.inj h)
    split
    · trivial
    · next existingKey hexisting =>
      split
      · next hhash =>
        rintro _ hkey
        obtain rfl := Option.some.inj (hs.symm.trans hkey)
        exact ⟨existingKey, hexisting, hhash, rfl⟩
      · trivial
  | fetchReplay request memoId =>
    obtain ⟨rfl, rfl⟩ := Prod.mk.inj (Option.some.inj h)
    split
    · trivial
    · next memo hmemo =>
      intro key hkey
      obtain ⟨record, hrecord, hhash, rfl⟩ := hs key hkey
      exact ⟨record, hrecord, hhash, hmemo⟩
  | findMemo request =>
    obtain ⟨rfl, rfl⟩ := Prod.mk.inj (Option.some.inj h)
    split
    · next existing hexisting =>
      split
      · trivial
      · next key _ hkey => exact ⟨hkey, hl.found _ _ _ _ hinv hexisting⟩
      · next _ hkey => exact fun key hsome => by rw [hkey] at hsome; cases hsome
    · split <;> trivial
  | saveKey request key existing =>
    have hstep := Option.some.inj h
    split at hstep
    · obtain ⟨rfl, rfl⟩ := Prod.mk.inj hstep
      trivial
    · next saved hsave =>
      obtain ⟨rfl, rfl⟩ := Prod.mk.inj hstep
      refine (keptFor_save_iff hl hinv hs.1 hs.2 hsave).mpr (hown ?_)
      rw [hsave]
      rfl
  | createMemo request memo =>
    have hstep := Option.some.inj h
    split at hstep
    · obtain ⟨rfl, rfl⟩ := Prod.mk.inj hstep
      trivial
    · next saved hsave =>
      obtain ⟨rfl, rfl⟩ := Prod.mk.inj hstep
      refine (keptFor_create_iff hl hinv hsave).mpr fun key hkey => hown key hkey ?_
      rw [hsave]
      rfl
  | ended => cases h
  | refused => cases h

theorem memo_outline (hl : repository.Lawful inv) : (memoCalls services repository).Outline inv
    (fun _ => StageHolds services repository) (WritesOwnMemo services repository) where
  start _ store call _ := by
    exact startMemoCall_induction (P := StageHolds services repository store)
      (fun _ _ => trivial) (fun _ _ hkey => hkey) (fun _ _ => trivial) call
  step _ store stage _ store' stage' hinv hs hown h :=
    ⟨(grows_of_step hl hinv h).1, stageHolds_step hl hinv hs hown h⟩
  stable _ _ store stage _ store' stage' other hinv hs _ h hother :=
    hother.grows (grows_of_step hl hinv h).2

end Steps

section Later

variable {S : Type*} {services : MemoServices} {repository : MemoRepository S} {inv : S → Prop}
  {pool after : Pool S MemoStage} {later : List (Label MemoCall Unit)}
  {record : ProposalMemoIdempotencyRecord} {memo : ProposalMemoRecord} {key : String}

/-- How far a call can be that started after the key was bound to a stored memo. -/
def LaterStage (services : MemoServices) (key : String) (record : ProposalMemoIdempotencyRecord)
    (memo : ProposalMemoRecord) : MemoStage → Prop
  | .lookUpKey request requestKey => request.key? = some requestKey
  | .fetchReplay request memoId => request.key? = some key →
    request.requestHash services = record.requestHash ∧ memoId = record.memoId
  | .findMemo request => request.key? ≠ some key
  | .saveKey request _ _ => request.key? ≠ some key
  | .createMemo request _ => request.key? ≠ some key
  | .ended request outcome => request.key? = some key →
    if request.requestHash services = record.requestHash then
      ∃ result, outcome = .ok result ∧ result.memo = memo
    else outcome = .error memoIdempotencyKeyConflict
  | .refused _ _ => True

theorem laterStage_step {store store' : S} {stage stage' : MemoStage}
    (hkey : repository.getMemoIdempotency store key = some record)
    (hmemo : repository.getMemo store record.memoId = some memo)
    (hs : LaterStage services key record memo stage)
    (h : stepMemoCall services repository store stage () = some (store', stage')) :
    LaterStage services key record memo stage' := by
  cases stage with
  | lookUpKey request requestKey =>
    obtain ⟨-, rfl⟩ := Prod.mk.inj (Option.some.inj h)
    split
    · next hnone =>
      intro heq
      obtain rfl := Option.some.inj (hs.symm.trans heq)
      rw [hkey] at hnone
      cases hnone
    · next existingKey hexisting =>
      have hsame : request.key? = some key → existingKey = record := by
        intro heq
        obtain rfl := Option.some.inj (hs.symm.trans heq)
        exact Option.some.inj (hexisting.symm.trans hkey)
      split
      · next hhash =>
        intro heq
        obtain rfl := hsame heq
        exact ⟨hhash.symm, rfl⟩
      · next hhash =>
        intro heq
        obtain rfl := hsame heq
        rw [if_neg (Ne.symm hhash)]
  | fetchReplay request memoId =>
    obtain ⟨-, rfl⟩ := Prod.mk.inj (Option.some.inj h)
    intro heq
    obtain ⟨hhash, rfl⟩ := hs heq
    rw [if_pos hhash, hmemo]
    exact ⟨_, rfl, rfl⟩
  | findMemo request =>
    obtain ⟨-, rfl⟩ := Prod.mk.inj (Option.some.inj h)
    split
    · split
      · exact fun heq => absurd heq hs
      · exact hs
      · exact fun heq => absurd heq hs
    · split
      · exact fun heq => absurd heq hs
      · exact hs
  | saveKey request requestKey existing =>
    have hstep := Option.some.inj h
    split at hstep
    · obtain ⟨-, rfl⟩ := Prod.mk.inj hstep
      exact fun heq => absurd heq hs
    · obtain ⟨-, rfl⟩ := Prod.mk.inj hstep
      exact fun heq => absurd heq hs
  | createMemo request memo =>
    have hstep := Option.some.inj h
    split at hstep
    · obtain ⟨-, rfl⟩ := Prod.mk.inj hstep
      exact fun heq => absurd heq hs
    · obtain ⟨-, rfl⟩ := Prod.mk.inj hstep
      exact fun heq => absurd heq hs
  | ended => cases h
  | refused => cases h

/-- From a kept key on, every later call is answered with the memo or refused. -/
theorem later_outline (hl : repository.Lawful inv) (pool : Pool S MemoStage)
    (hkey : repository.getMemoIdempotency pool.store key = some record)
    (hmemo : repository.getMemo pool.store record.memoId = some memo) :
    (memoCalls services repository).Outline
      (fun store => inv store ∧ repository.Grows pool.store store)
      (fun i _ stage => pool.worker i = none → LaterStage services key record memo stage)
      fun _ _ _ => True where
  start i _ call _ _ := by
    refine startMemoCall_induction (P := LaterStage services key record memo)
      (fun _ _ => trivial) (fun _ _ hkey => hkey) (fun request hnone => ?_) call
    show request.key? ≠ some key
    rw [hnone]
    simp
  step i store stage _ store' stage' hinv hs _ h := by
    obtain ⟨hinv', hgrows⟩ := grows_of_step hl hinv.1 h
    refine ⟨⟨hinv', hinv.2.trans hgrows⟩, fun hidle => ?_⟩
    exact laterStage_step (hinv.2.keys _ _ hkey) (hinv.2.memos _ _ hmemo) (hs hidle) h
  stable _ _ _ _ _ _ _ _ _ _ _ _ hother := hother

theorem grows_of_run (hl : repository.Lawful inv) (hinv : inv pool.store)
    (hrun : run (memoCalls services repository).next pool later = some after) :
    repository.Grows pool.store after.store := by
  refine (invariant_of_step (I := fun q : Pool S MemoStage => inv q.store ∧
    repository.Grows pool.store q.store) ?_ ⟨hinv, .refl repository _⟩ hrun).2
  rintro p label q ⟨hp, hgrows⟩ hnext
  cases (memoCalls services repository).next_iff.mp hnext with
  | start => exact ⟨hp, hgrows⟩
  | advance i x l s' l' hworker hstep =>
    obtain ⟨hs', hstep⟩ := grows_of_step hl hp hstep
    exact ⟨hs', hgrows.trans hstep⟩

/-- When every call that has returned is kept, every call returns again. -/
theorem returnsAgain_of_holds (hl : repository.Lawful inv)
    (h : Program.Holds inv (fun _ => StageHolds services repository) pool) :
    ReturnsAgain services repository pool := by
  intro later after hrun
  refine ⟨?_, (grows_of_run hl h.store hrun).keys⟩
  intro i request result key hreturned hrequest j request' outcome hidle hended hrequest'
  obtain ⟨record, hrecord, hhash, hmemo⟩ := h.worker i _ hreturned key hrequest
  have hstart : Program.Holds (fun store => inv store ∧ repository.Grows pool.store store)
      (fun i _ stage => pool.worker i = none → LaterStage services key record result.memo stage)
      pool := by
    refine ⟨⟨h.store, .refl repository _⟩, fun i stage hstage hnone => ?_⟩
    rw [hnone] at hstage
    cases hstage
  have hlater := (later_outline hl pool hrecord hmemo).holds_run hstart
    Program.everyStep_guard_true hrun
  rw [← hhash]
  exact hlater.worker j _ hended hidle hrequest'

/-- A call whose key is stored, but not kept for it, is not answered again. -/
theorem keptFor_of_returnsAgain (h : ReturnsAgain services repository pool) {i j : ℕ}
    {request : MemoRequest} {result : ProposalMemoPersistenceResult}
    (hended : pool.worker i = some (.ended request (.ok result))) (hidle : pool.worker j = none)
    (hkey : request.key? = some key)
    (hrecord : repository.getMemoIdempotency pool.store key = some record) :
    record.requestHash = request.requestHash services ∧
      repository.getMemo pool.store record.memoId = some result.memo := by
  have hstart := (memoCalls services repository).next_start request.call hidle
  have hfirst : (memoCalls services repository).start request.call = .lookUpKey request key := by
    show startMemoCall request.call = _
    rw [startMemoCall_of_request, MemoRequest.firstStage, hkey]
  rw [hfirst] at hstart
  have hhash : record.requestHash = request.requestHash services := by
    by_contra hother
    have hlook : stepMemoCall services repository pool.store (.lookUpKey request key) () =
        some (pool.store, .ended request (.error memoIdempotencyKeyConflict)) := by
      simp only [stepMemoCall, hrecord, if_neg hother]
    have hrun : run (memoCalls services repository).next pool
        [.start j request.call, .advance j ()] = some (pool.moved j pool.store
          (.ended request (.error memoIdempotencyKeyConflict))) := by
      rw [run_cons, hstart, Option.bind_some, run_cons, Program.next_moved _ hlook,
        Option.bind_some, run_nil]
    have hanswer := (h _ _ hrun).1 i request result key hended hkey j request _ hidle
      Pool.moved_worker_self hkey
    rw [if_pos rfl] at hanswer
    obtain ⟨_, ⟨⟩, -⟩ := hanswer
  refine ⟨hhash, ?_⟩
  have hlook : stepMemoCall services repository pool.store (.lookUpKey request key) () =
      some (pool.store, .fetchReplay request record.memoId) := by
    simp only [stepMemoCall, hrecord, if_pos hhash]
  -- The third step answers with the memo that is found, whatever it is.
  have hreplay : ∀ answer, stepMemoCall services repository pool.store
      (.fetchReplay request record.memoId) () = some (pool.store, .ended request answer) →
      ∃ result', answer = .ok result' ∧ result'.memo = result.memo := by
    intro answer hfetch
    have hrun : run (memoCalls services repository).next pool
        [.start j request.call, .advance j (), .advance j ()] =
          some (pool.moved j pool.store (.ended request answer)) := by
      rw [run_cons, hstart, Option.bind_some, run_cons, Program.next_moved _ hlook,
        Option.bind_some, run_cons, Program.next_moved _ hfetch]
      rfl
    have hanswer := (h _ _ hrun).1 i request result key hended hkey j request _ hidle
      Pool.moved_worker_self hkey
    rw [if_pos rfl] at hanswer
    exact hanswer
  rcases hfound : repository.getMemo pool.store record.memoId with _ | memo
  · obtain ⟨_, ⟨⟩, -⟩ := hreplay _ (by rw [stepMemoCall, hfound])
  · obtain ⟨_, ⟨⟩, hmemo⟩ := hreplay _ (by rw [stepMemoCall, hfound])
    exact congrArg some hmemo

/-- A step after which every call returns again wrote its own memo, if it wrote one. -/
theorem writesOwnMemo_of_returnsAgain (hl : repository.Lawful inv)
    (hs : Program.Holds inv (fun _ => StageHolds services repository) pool) {i j : ℕ}
    {stage stage' : MemoStage} {store' : S} (hworker : pool.worker i = some stage)
    (hstep : stepMemoCall services repository pool.store stage () = some (store', stage'))
    (h : ReturnsAgain services repository (pool.moved i store' stage'))
    (hidle : (pool.moved i store' stage').worker j = none) :
    WritesOwnMemo services repository pool.store stage () := by
  have hstage := hs.worker i stage hworker
  cases stage with
  | saveKey request key existing =>
    intro hok
    rcases hsave : repository.saveMemoIdempotency pool.store
      (request.idempotencyRecord services key existing) with _ | saved
    · rw [hsave] at hok
      cases hok
    · simp only [stepMemoCall, hsave] at hstep
      obtain ⟨rfl, rfl⟩ := Prod.mk.inj (Option.some.inj hstep)
      obtain ⟨record, hrecord⟩ := (hl.save _ _ _ hs.store hsave).2.bound
      refine (keptFor_save_iff hl hs.store hstage.1 hstage.2 hsave).mp fun key' hkey' => ?_
      obtain rfl := Option.some.inj (hstage.1.symm.trans hkey')
      exact ⟨record, hrecord,
        keptFor_of_returnsAgain h Pool.moved_worker_self hidle hkey' hrecord⟩
  | createMemo request memo =>
    intro key hkey hok
    rcases hsave : repository.createMemoWithIdempotencyEvent pool.store memo
      (request.optionalIdempotencyRecord services memo) (request.createdEvent services memo)
      with _ | saved
    · rw [hsave] at hok
      cases hok
    · simp only [stepMemoCall, hsave] at hstep
      obtain ⟨rfl, rfl⟩ := Prod.mk.inj (Option.some.inj hstep)
      refine (keptFor_create_iff hl hs.store hsave).mp (fun key' hkey' => ?_) key hkey
      have hwritten := (hl.create _ _ _ _ _ hs.store hsave).2
      rw [MemoRequest.optionalIdempotencyRecord, Option.mem_def.mp hkey', Option.map_some]
        at hwritten
      obtain ⟨record, hrecord⟩ := hwritten.bound
      exact ⟨record, hrecord,
        keptFor_of_returnsAgain h Pool.moved_worker_self hidle hkey' hrecord⟩
  | lookUpKey => trivial
  | fetchReplay => trivial
  | findMemo => trivial
  | ended => trivial
  | refused => trivial

theorem returnsAgain_iff_of_lawful (hl : repository.Lawful inv) {store : S} (hinv : inv store)
    (labels : List (Label MemoCall Unit)) :
    EveryState (memoCalls services repository).next (ReturnsAgain services repository)
        (.initial store) labels ↔
      EveryStep (memoCalls services repository).next
        (Program.Guard (WritesOwnMemo services repository)) (.initial store) labels := by
  have hkeep : ∀ p label q,
      Program.Holds inv (fun _ => StageHolds services repository) p ∧
        (∃ bound, ∀ i, bound ≤ i → p.worker i = none) →
      (memoCalls services repository).next p label = some q →
      Program.Guard (WritesOwnMemo services repository) p label q →
      Program.Holds inv (fun _ => StageHolds services repository) q ∧
        (∃ bound, ∀ i, bound ≤ i → q.worker i = none) := by
    rintro p label q ⟨hp, _, hidle⟩ hnext hguard
    exact ⟨(memo_outline hl).holds_next hp hnext hguard, _, Program.idle_next hidle hnext⟩
  have hinitial : Program.Holds inv (fun _ => StageHolds services repository)
      (.initial store : Pool S MemoStage) := Program.holds_initial hinv
  refine everyState_iff_of_invariant hkeep (fun p label q hp hnext => ?_)
    ⟨hinitial, 0, fun _ _ => rfl⟩ (returnsAgain_of_holds hl hinitial)
  constructor
  · intro hq
    obtain ⟨_, hidle⟩ := hp.2
    cases (memoCalls services repository).next_iff.mp hnext with
    | start => trivial
    | advance i x stage store' stage' hworker hstep =>
      intro l hl'
      obtain rfl := Option.some.inj (hworker.symm.trans hl')
      exact writesOwnMemo_of_returnsAgain hl hp.1 hworker hstep hq
        (Program.idle_next hidle hnext _ le_rfl)
  · exact fun hguard => returnsAgain_of_holds hl (hkeep p label q hp hnext hguard).1

end Later

/-- In every interleaving of calls from an empty repository, what a call returned for its key is
returned again, exactly when every write that goes through writes its own memo and key. -/
theorem returns_again_iff (services : MemoServices) (labels : List (Label MemoCall Unit)) :
    (EveryState (memoCalls services inMemoryMemos).next (ReturnsAgain services inMemoryMemos)
        (.initial .empty) labels ↔
      EveryStep (memoCalls services inMemoryMemos).next
        (Program.Guard (WritesOwnMemo services inMemoryMemos)) (.initial .empty) labels) ∧
    (EveryState (memoCalls services postgresMemos).next (ReturnsAgain services postgresMemos)
        (.initial .empty) labels ↔
      EveryStep (memoCalls services postgresMemos).next
        (Program.Guard (WritesOwnMemo services postgresMemos)) (.initial .empty) labels) := by
  have hdicts : MemoDicts.empty.Keyed := fun _ _ h => by cases h
  have htables : MemoTables.empty.Keyed := List.nodup_nil
  exact ⟨returnsAgain_iff_of_lawful MemoDicts.lawful hdicts labels,
    returnsAgain_iff_of_lawful MemoTables.lawful htables labels⟩

namespace Sample

def memoServices : MemoServices where
  toServices := services
  buildAdvisoryProposalMemoEvidencePack version := .ok
    { memoId := "memo_" ++ version.proposalVersionId
      memoVersion := "advisory-proposal-memo-evidence-pack.v1"
      artifactId := none
      status := "READY"
      projectionPolicy := []
      sourceInputHash := services.hashCanonicalPayload version.evidenceBundleJson
      memoHash := services.hashCanonicalPayload [("memo", .str version.proposalVersionId)]
      dump := [] }

def memoVersion (versionNo : ℕ) (proposalVersionId : String) : ProposalVersionRecord where
  proposalVersionId := proposalVersionId
  proposalId := "pp_000"
  versionNo := versionNo
  createdAt := clock 0
  requestHash := "sha256:request"
  artifactHash := "sha256:artifact"
  simulationHash := "sha256:simulation"
  statusAtCreation := .ready
  proposalResultJson := []
  artifactJson := []
  evidenceBundleJson := []
  gateDecisionJson := none

def createMemo (version : ProposalVersionRecord) (createdBy eventId : String) : MemoCall where
  version := version
  idempotencyKey := some "key-1"
  createdBy := createdBy
  createdAt := clock 1
  eventId := eventId

end Sample

/-- Two calls look the key up and find the memo of their version missing, and then create it. -/
def overlappingMemoCalls (first second : MemoCall) : List (Label MemoCall Unit) :=
  [.start 0 first, .start 1 second, .advance 0 (), .advance 1 (), .advance 0 (), .advance 1 (),
    .advance 0 (), .advance 1 ()]

/-- In memory two advisors create the memo of one version, and both are told that theirs is the one
created; in Postgres the key is used for two versions. -/
theorem returns_again_overlapping :
    ¬ EveryState (memoCalls Sample.memoServices inMemoryMemos).next
      (ReturnsAgain Sample.memoServices inMemoryMemos) (.initial .empty)
      (overlappingMemoCalls (Sample.createMemo (Sample.memoVersion 1 "ppv_001") "advisor_1" "pme_1")
        (Sample.createMemo (Sample.memoVersion 1 "ppv_001") "advisor_2" "pme_2")) ∧
    ¬ EveryState (memoCalls Sample.memoServices postgresMemos).next
      (ReturnsAgain Sample.memoServices postgresMemos) (.initial .empty)
      (overlappingMemoCalls (Sample.createMemo (Sample.memoVersion 1 "ppv_001") "advisor_1" "pme_1")
        (Sample.createMemo (Sample.memoVersion 2 "ppv_002") "advisor_1" "pme_2")) := by
  constructor
  · rw [returnsAgain_iff_of_lawful MemoDicts.lawful fun _ _ h => by cases h]
    decide +kernel
  · rw [returnsAgain_iff_of_lawful MemoTables.lawful (show MemoTables.empty.Keyed from List.nodup_nil)]
    decide +kernel

end LotusAdvise.Proposals

import LotusAdvise.AdvisoryCopilot.RunPersistence
import LotusAdvise.Foundations.Runs

/-! # The agreement of the adapters

Calls that persist runs are answered alike from memory and from the database, as long as a call that
its key does not resolve finds no run stored for its request. The database answers such a call with
the run that it has not stored, and binds the key that the memory leaves unbound.
-/

namespace LotusAdvise.AdvisoryCopilot

open Runs Tables

/-- The key of a call, as the records have it. -/
def CopilotRunCall.recordKey (call : CopilotRunCall) : Option String :=
  call.key.map normalizeRecordText

/-- Nothing that the call carries is refused. -/
def CopilotRunCall.Accepted (services : CopilotServices) (call : CopilotRunCall) : Prop :=
  (assertSafeRunPayloads services call).toOption.isSome ∧
    (buildRunRecord services call).toOption.isSome ∧
    (runIdempotencyRecord services call).toOption.isSome

instance (services : CopilotServices) (call : CopilotRunCall) : Decidable (call.Accepted services) :=
  inferInstanceAs (Decidable (_ ∧ _))

/-- The key of the call is bound, or no run is stored for its request. -/
def ResolvedByKey (services : CopilotServices) (repository : InMemoryCopilotRepository)
    (call : CopilotRunCall) : Prop :=
  call.Accepted services →
    repository.getRun (runIdOf services (call.requestHash services)) = none ∨
      ∃ key ∈ call.recordKey, repository.getRunIdempotency key ≠ none

instance (services : CopilotServices) (repository : InMemoryCopilotRepository)
    (call : CopilotRunCall) : Decidable (ResolvedByKey services repository call) :=
  inferInstanceAs (Decidable (_ → _))

section Adapters

variable (services : CopilotServices)

/-- A call, persisted in memory and in the database. -/
def persistBoth (stores : InMemoryCopilotRepository × PostgresCopilotTables)
    (call : CopilotRunCall) : Option (InMemoryCopilotRepository × PostgresCopilotTables) :=
  some ((PersistPhase.persist inMemoryRuns services stores.1 call).1,
    (PersistPhase.persist postgresRuns services stores.2 call).1)

/-- Keys that are bound stay bound to their request hashes. -/
def KeysStayBound {S : Type} (repository : CopilotRunRepository S) (s s' : S) : Prop :=
  ∀ key record, repository.getRunIdempotency s key = some record →
    ∃ record', repository.getRunIdempotency s' key = some record' ∧
      record'.requestHash = record.requestHash

/-- Both adapters give the call the same answer, a run that is answered is the stored one, and
bound keys stay bound. -/
structure AnsweredAlike (stores : InMemoryCopilotRepository × PostgresCopilotTables)
    (call : CopilotRunCall) (stores' : InMemoryCopilotRepository × PostgresCopilotTables) :
    Prop where
  answer : ∃ answer,
    (PersistPhase.persist inMemoryRuns services stores.1 call).2 = .finished answer ∧
    (PersistPhase.persist postgresRuns services stores.2 call).2 = .finished answer ∧
    ∀ result, answer = .ok result →
      stores'.1.getRun result.run.runId = some result.run ∧
      stores'.2.getRun result.run.runId = some result.run
  inMemoryKeys : KeysStayBound inMemoryRuns stores.1 stores'.1
  postgresKeys : KeysStayBound postgresRuns stores.2 stores'.2

end Adapters

section Consistency

variable (services : CopilotServices)

/-- The two stores have the same rows, and the rows belong together. -/
structure SameRows (m : InMemoryCopilotRepository) (t : PostgresCopilotTables) : Prop where
  runs : t.runs = m.runs
  runIdempotency : t.runIdempotency = m.runIdempotency
  runIds : ∀ run ∈ m.runs, run.runId = runIdOf services run.requestHash
  nodup : (m.runs.map AdvisoryCopilotRunRecord.runId).Nodup
  bound : ∀ record ∈ m.runIdempotency, ∃ run, m.getRun record.runId = some run ∧
    run.requestHash = record.requestHash

/-- What is known of a call between its steps. -/
def Expected (m : InMemoryCopilotRepository) : PersistPhase → Prop
  | .lookingUp key call => call.key = some key ∧ ResolvedByKey services m call ∧
      assertSafeRunPayloads services call = .ok ()
  | .loading call existing => existing ∈ m.runIdempotency ∧
      existing.requestHash = call.requestHash services
  | .refreshing existing refreshed => existing ∈ m.runs ∧ refreshed.runId = existing.runId ∧
      refreshed.requestHash = existing.requestHash
  | .saving run idempotency => run.runId = runIdOf services run.requestHash ∧
      (∀ record ∈ idempotency, record.runId = run.runId ∧ record.requestHash = run.requestHash) ∧
      (m.getRun run.runId = none ∨
        ∃ record ∈ idempotency, m.getRunIdempotency record.idempotencyKey ≠ none)
  | .finished answer => ∀ result, answer = .ok result →
      m.getRun result.run.runId = some result.run

variable {services} {m : InMemoryCopilotRepository} {t : PostgresCopilotTables}
  {call : CopilotRunCall} {run : AdvisoryCopilotRunRecord} {runId key : String}

namespace SameRows

theorem getRun_eq (h : SameRows services m t) (runId : String) : t.getRun runId = m.getRun runId := by
  rw [PostgresCopilotTables.getRun, h.runs]
  rfl

theorem getRunIdempotency_eq (h : SameRows services m t) (key : String) :
    t.getRunIdempotency key = m.getRunIdempotency key := by
  rw [PostgresCopilotTables.getRunIdempotency, h.runIdempotency]
  rfl

theorem getRun_of_mem (h : SameRows services m t) (hrun : run ∈ m.runs) :
    m.getRun run.runId = some run := lookup_of_mem h.nodup hrun

/-- A record belongs to the run of its request. -/
theorem runId_of_bound (h : SameRows services m t) {record : AdvisoryCopilotRunIdempotencyRecord}
    (hrecord : record ∈ m.runIdempotency) :
    record.runId = runIdOf services record.requestHash := by
  obtain ⟨run, hrun, hhash⟩ := h.bound record hrecord
  obtain ⟨hmem, hid⟩ := lookup_some hrun
  rw [← hid, ← hhash, h.runIds run hmem]

/-- Runs with the request hash of a run under its own identifier have this identifier. -/
theorem requestHashUnique (h : SameRows services m t)
    (hrun : run.runId = runIdOf services run.requestHash) : t.requestHashUnique run := by
  intro other hother hhash
  rw [h.runs] at hother
  rw [h.runIds other hother, hrun, hhash]

end SameRows

/-- A call that saves has records for the run of its request. -/
theorem expected_withoutExistingRun (hsafe : assertSafeRunPayloads services call = .ok ())
    (h : ResolvedByKey services m call) :
    Expected services m (PersistPhase.withoutExistingRun services call) := by
  unfold PersistPhase.withoutExistingRun
  cases hrun : buildRunRecord services call with
  | error error => rintro _ ⟨⟩
  | ok run =>
    cases hidempotency : runIdempotencyRecord services call with
    | error error => rintro _ ⟨⟩
    | ok idempotency =>
      obtain ⟨hid, hhash, -⟩ := buildRunRecord_eq_ok hrun
      have haccepted : call.Accepted services := by
        rw [CopilotRunCall.Accepted, hsafe, hrun, hidempotency]
        exact ⟨rfl, rfl, rfl⟩
      refine ⟨by rw [hid, hhash], ?_, ?_⟩
      · rintro record hrecord
        obtain rfl := Option.mem_def.mp hrecord
        obtain ⟨hrecordId, hrecordHash⟩ := runIdempotencyRecord_eq_ok hidempotency
        exact ⟨hrecordId.trans hid.symm, hrecordHash.trans hhash.symm⟩
      · rw [hid]
        refine (h haccepted).imp_right ?_
        rintro ⟨key, hkey, hbound⟩
        obtain ⟨raw, hraw, rfl⟩ := Option.map_eq_some_iff.mp hkey
        unfold runIdempotencyRecord at hidempotency
        rw [hraw] at hidempotency
        obtain ⟨text, htext, heq⟩ := bind_eq_ok.mp hidempotency
        cases heq
        refine ⟨_, rfl, ?_⟩
        unfold normalizeRequiredRecordText at htext
        split at htext
        · cases htext
        · cases htext
          exact hbound

theorem expected_start (h : ResolvedByKey services m call) :
    Expected services m (PersistPhase.start services call) := by
  unfold PersistPhase.start
  cases hsafe : assertSafeRunPayloads services call with
  | error error => rintro _ ⟨⟩
  | ok _ =>
    dsimp only
    cases hkey : call.key with
    | none => exact expected_withoutExistingRun hsafe h
    | some key => exact ⟨hkey, h, hsafe⟩

/-- A run that a key resolves is replayed as it is stored, or refreshed under its identifier. -/
theorem expected_handleExistingRun (h : SameRows services m t) (hrun : run ∈ m.runs)
    (hhash : run.requestHash = call.requestHash services) :
    Expected services m (PersistPhase.handleExistingRun services call run) := by
  unfold PersistPhase.handleExistingRun
  cases hincoming : buildRunRecord services call with
  | error error => rintro _ ⟨⟩
  | ok incoming =>
    dsimp only
    split
    · exact ⟨hrun, rfl, (buildRunRecord_eq_ok hincoming).2.1.trans hhash.symm⟩
    · rintro _ ⟨⟩
      exact h.getRun_of_mem hrun

end Consistency

section Writes

variable {services : CopilotServices} {m : InMemoryCopilotRepository} {t : PostgresCopilotTables}
  {run existing refreshed : AdvisoryCopilotRunRecord}
  {record : AdvisoryCopilotRunIdempotencyRecord}

/-- A run that is refreshed is refreshed in both stores. -/
theorem updateRun_alike (h : SameRows services m t) (hexisting : existing ∈ m.runs)
    (hid : refreshed.runId = existing.runId) (hhash : refreshed.requestHash = existing.requestHash) :
    ∃ m' t', m.updateRun refreshed = .ok m' ∧ t.updateRun refreshed = .ok t' ∧
      SameRows services m' t' ∧ m'.getRun refreshed.runId = some refreshed ∧
      m'.runIdempotency = m.runIdempotency := by
  have hstored : m.getRun refreshed.runId = some existing := by rw [hid, h.getRun_of_mem hexisting]
  have hfound : m.getRun refreshed.runId ≠ none := by
    rw [hstored]
    exact Option.some_ne_none _
  have hown : refreshed.runId = runIdOf services refreshed.requestHash := by
    rw [hid, hhash, h.runIds existing hexisting]
  let rows := upsert AdvisoryCopilotRunRecord.runId m.runs refreshed
  have hrows : rows =
      m.runs.map fun stored => if stored.runId = refreshed.runId then refreshed else stored :=
    if_neg hfound
  have hget : ∀ runId, ({ m with runs := rows } : InMemoryCopilotRepository).getRun runId =
      if refreshed.runId = runId then some refreshed else m.getRun runId :=
    fun runId => lookup_upsert runId
  refine ⟨{ m with runs := rows }, { t with runs := rows }, if_neg hfound, ?_, ?_, ?_, rfl⟩
  · unfold PostgresCopilotTables.updateRun
    rw [h.getRun_eq, if_neg hfound, if_pos (h.requestHashUnique hown), h.runs, ← hrows]
  · refine ⟨rfl, h.runIdempotency, ?_, nodup_keys_upsert h.nodup, ?_⟩
    · intro run hrun
      rcases mem_upsert hrun with rfl | hrun
      · exact hown
      · exact h.runIds run hrun
    · intro record hrecord
      obtain ⟨run, hrun, hrunHash⟩ := h.bound record hrecord
      rw [hget]
      split
      · next heq =>
        rw [← heq, hstored] at hrun
        cases hrun
        exact ⟨refreshed, rfl, hhash.trans hrunHash⟩
      · exact ⟨run, hrun, hrunHash⟩
  · rw [hget, if_pos rfl]

/-- A new run is stored in both stores. -/
theorem storeNewRun_alike (h : SameRows services m t)
    (hid : run.runId = runIdOf services run.requestHash) (hnew : m.getRun run.runId = none) :
    ∃ t', t.insertRun run = .ok t' ∧ SameRows services (m.storeNewRun run none) t' ∧
      (m.storeNewRun run none).getRun run.runId = some run := by
  have hrows : upsert AdvisoryCopilotRunRecord.runId m.runs run = m.runs ++ [run] := if_pos hnew
  have hget : ∀ runId, (m.storeNewRun run none).getRun runId =
      if run.runId = runId then some run else m.getRun runId := fun runId => lookup_upsert runId
  refine ⟨{ t with runs := m.runs ++ [run] }, ?_, ?_, ?_⟩
  · unfold PostgresCopilotTables.insertRun
    rw [h.getRun_eq, if_neg (not_not.mpr hnew), if_pos (h.requestHashUnique hid), h.runs]
  · refine ⟨hrows.symm, h.runIdempotency, ?_, nodup_keys_upsert h.nodup, ?_⟩
    · intro other hother
      rcases mem_upsert hother with rfl | hother
      · exact hid
      · exact h.runIds other hother
    · intro record hrecord
      obtain ⟨other, hother, hhash⟩ := h.bound record hrecord
      rw [hget, if_neg]
      · exact ⟨other, hother, hhash⟩
      · intro heq
        rw [← heq, hnew] at hother
        cases hother
  · rw [hget, if_pos rfl]

/-- A key of a stored run that is not bound is bound in both stores. -/
theorem bindKey_alike (h : SameRows services m t) (hrun : m.getRun record.runId = some run)
    (hhash : run.requestHash = record.requestHash)
    (hunbound : m.getRunIdempotency record.idempotencyKey = none) :
    ∃ t', t.insertRunIdempotency record = .ok t' ∧
      SameRows services { m with
        runIdempotency := upsert AdvisoryCopilotRunIdempotencyRecord.idempotencyKey
          m.runIdempotency record } t' := by
  have hrows : upsert AdvisoryCopilotRunIdempotencyRecord.idempotencyKey m.runIdempotency record =
      m.runIdempotency ++ [record] := if_pos hunbound
  refine ⟨{ t with runIdempotency := m.runIdempotency ++ [record] }, ?_, ?_⟩
  · unfold PostgresCopilotTables.insertRunIdempotency
    rw [h.getRunIdempotency_eq, h.getRun_eq, hrun, if_neg (not_not.mpr hunbound),
      if_neg (Option.some_ne_none _), h.runIdempotency]
  · refine ⟨h.runs, hrows.symm, h.runIds, h.nodup, ?_⟩
    intro other hother
    rcases mem_upsert hother with rfl | hother
    · exact ⟨run, hrun, hhash⟩
    · exact h.bound other hother

/-- A bound key replays its run from both stores, or conflicts in both. -/
theorem replay_alike (h : SameRows services m t)
    (hbound : m.getRunIdempotency record.idempotencyKey ≠ none)
    (hid : run.runId = runIdOf services run.requestHash)
    (hhash : record.requestHash = run.requestHash) :
    (∃ error, m.saveRunWithIdempotency run (some record) = .error error ∧
      t.saveRunWithIdempotency run (some record) = .error error) ∨
    ∃ stored, m.saveRunWithIdempotency run (some record) = .ok (m, stored) ∧
      t.saveRunWithIdempotency run (some record) = .ok (t, stored) ∧
      m.getRun stored.runId = some stored := by
  obtain ⟨existing, hexisting⟩ := Option.ne_none_iff_exists'.mp hbound
  obtain ⟨hmem, -⟩ := lookup_some hexisting
  unfold InMemoryCopilotRepository.saveRunWithIdempotency InMemoryCopilotRepository.runReplay
    InMemoryCopilotRepository.runReplayForIdempotency PostgresCopilotTables.saveRunWithIdempotency
  simp only [h.getRunIdempotency_eq, hexisting, h.getRun_eq]
  by_cases hsame : existing.requestHash = record.requestHash
  · have hown : existing.runId = run.runId := by rw [h.runId_of_bound hmem, hsame, hhash, hid]
    obtain ⟨stored, hstored, -⟩ := h.bound existing hmem
    rw [if_neg (by rw [not_or]; exact ⟨not_not.mpr hsame, not_not.mpr hown⟩),
      if_neg (not_not.mpr hsame), hstored]
    refine .inr ⟨stored, rfl, rfl, ?_⟩
    rw [(lookup_some hstored).2, hstored]
  · rw [if_pos (.inl hsame), if_pos hsame]
    exact .inl ⟨_, rfl, rfl⟩

/-- A run that neither its key nor its request finds is saved in both stores. -/
theorem saveNew_alike (h : SameRows services m t)
    (hid : run.runId = runIdOf services run.requestHash) (hnew : m.getRun run.runId = none)
    {idempotency : Option AdvisoryCopilotRunIdempotencyRecord}
    (hrecord : ∀ record ∈ idempotency, record.runId = run.runId ∧
      record.requestHash = run.requestHash)
    (hunbound : ∀ record ∈ idempotency, m.getRunIdempotency record.idempotencyKey = none) :
    ∃ m' t', m.saveRunWithIdempotency run idempotency = .ok (m', run) ∧
      t.saveRunWithIdempotency run idempotency = .ok (t', run) ∧ SameRows services m' t' ∧
      m'.getRun run.runId = some run ∧
      ∀ key, m.getRunIdempotency key ≠ none →
        m'.getRunIdempotency key = m.getRunIdempotency key := by
  obtain ⟨t₁, hinsert, hsame, hstored⟩ := storeNewRun_alike h hid hnew
  have hreplay : m.runReplayForRunId run = .ok none := by
    rw [InMemoryCopilotRepository.runReplayForRunId, hnew]
  cases idempotency with
  | none =>
    refine ⟨m.storeNewRun run none, t₁, ?_, ?_, hsame, hstored, fun _ _ => rfl⟩
    · rw [InMemoryCopilotRepository.saveRunWithIdempotency, InMemoryCopilotRepository.runReplay,
        hreplay]
    · rw [PostgresCopilotTables.saveRunWithIdempotency, PostgresCopilotTables.insertBoth, hinsert]
      rfl
  | some record =>
    obtain ⟨hrecordId, hrecordHash⟩ := hrecord record rfl
    have hfree : m.getRunIdempotency record.idempotencyKey = none := hunbound record rfl
    have hfree₁ : (m.storeNewRun run none).getRunIdempotency record.idempotencyKey = none := hfree
    rw [← hrecordId] at hstored
    obtain ⟨t₂, hbind, hsame₂⟩ := bindKey_alike hsame hstored hrecordHash.symm hfree₁
    refine ⟨m.storeNewRun run (some record), t₂, ?_, ?_, hsame₂, ?_, ?_⟩
    · rw [InMemoryCopilotRepository.saveRunWithIdempotency, InMemoryCopilotRepository.runReplay,
        InMemoryCopilotRepository.runReplayForIdempotency, hfree, hreplay]
    · rw [PostgresCopilotTables.saveRunWithIdempotency, h.getRunIdempotency_eq, hfree]
      dsimp only
      rw [PostgresCopilotTables.insertBoth, hinsert]
      dsimp only [bind, Except.bind]
      rw [hbind]
      rfl
    · rw [← hrecordId]
      exact hstored
    · intro key hkey
      refine (lookup_upsert key).trans (if_neg ?_)
      rintro rfl
      exact hkey hfree

end Writes

section Steps

variable {services : CopilotServices} {m : InMemoryCopilotRepository} {t : PostgresCopilotTables}
  {phase : PersistPhase} {call : CopilotRunCall}

/-- A step of a call, taken in both stores. -/
structure StepAlike (services : CopilotServices) (m : InMemoryCopilotRepository)
    (t : PostgresCopilotTables) (phase : PersistPhase) (m' : InMemoryCopilotRepository)
    (t' : PostgresCopilotTables) (phase' : PersistPhase) : Prop where
  inMemory : PersistPhase.advance inMemoryRuns services m phase = (m', phase')
  postgres : PersistPhase.advance postgresRuns services t phase = (t', phase')
  rows : SameRows services m' t'
  expected : Expected services m' phase'
  keys : ∀ key, m.getRunIdempotency key ≠ none →
    m'.getRunIdempotency key = m.getRunIdempotency key

/-- A step that only reads. -/
theorem StepAlike.of_read {phase' : PersistPhase} (h : SameRows services m t)
    (hmemory : PersistPhase.advance inMemoryRuns services m phase = (m, phase'))
    (hpostgres : PersistPhase.advance postgresRuns services t phase = (t, phase'))
    (hexpected : Expected services m phase') : StepAlike services m t phase m t phase' :=
  ⟨hmemory, hpostgres, h, hexpected, fun _ _ => rfl⟩

theorem expected_error {error : String} : Expected services m (.finished (.error error)) := by
  rintro _ ⟨⟩

/-- Both stores take the same step. -/
theorem exists_stepAlike (h : SameRows services m t) (hphase : Expected services m phase) :
    ∃ m' t' phase', StepAlike services m t phase m' t' phase' := by
  cases phase with
  | lookingUp key call =>
    obtain ⟨hkey, hresolved, hsafe⟩ := hphase
    cases hlookup : m.getRunIdempotency key with
    | none =>
      refine ⟨_, _, _, .of_read h ?_ ?_ (expected_withoutExistingRun hsafe hresolved)⟩
      · simp only [PersistPhase.advance, inMemoryRuns, hlookup]
      · simp only [PersistPhase.advance, postgresRuns, h.getRunIdempotency_eq, hlookup]
    | some existing =>
      by_cases hhash : existing.requestHash = call.requestHash services
      · refine ⟨m, t, .loading call existing, .of_read h ?_ ?_ ⟨(lookup_some hlookup).1, hhash⟩⟩
        · simp only [PersistPhase.advance, inMemoryRuns, hlookup]
          exact if_neg (not_not.mpr hhash)
        · simp only [PersistPhase.advance, postgresRuns, h.getRunIdempotency_eq, hlookup]
          exact if_neg (not_not.mpr hhash)
      · refine ⟨m, t, .finished (.error "COPILOT_RUN_IDEMPOTENCY_KEY_CONFLICT"), .of_read h ?_ ?_
          expected_error⟩
        · simp only [PersistPhase.advance, inMemoryRuns, hlookup]
          exact if_pos hhash
        · simp only [PersistPhase.advance, postgresRuns, h.getRunIdempotency_eq, hlookup]
          exact if_pos hhash
  | loading call existing =>
    obtain ⟨hmem, hhash⟩ := hphase
    obtain ⟨run, hrun, hrunHash⟩ := h.bound existing hmem
    refine ⟨_, _, _, .of_read h ?_ ?_
      (expected_handleExistingRun h (lookup_some hrun).1 (hrunHash.trans hhash))⟩
    · simp only [PersistPhase.advance, inMemoryRuns, hrun]
    · simp only [PersistPhase.advance, postgresRuns, h.getRun_eq, hrun]
  | refreshing existing refreshed =>
    obtain ⟨hmem, hid, hhash⟩ := hphase
    obtain ⟨m', t', hm, ht, hrows, hget, hkeys⟩ := updateRun_alike h hmem hid hhash
    refine ⟨m', t', .finished (.ok { run := refreshed, replayed := false }), ?_, ?_, hrows, ?_, ?_⟩
    · simp only [PersistPhase.advance, inMemoryRuns, hm]
    · simp only [PersistPhase.advance, postgresRuns, ht]
    · rintro _ ⟨⟩
      exact hget
    · intro key _
      rw [InMemoryCopilotRepository.getRunIdempotency, hkeys]
      rfl
  | saving run idempotency =>
    obtain ⟨hid, hrecord, hcase⟩ := hphase
    by_cases hbound : ∃ record ∈ idempotency, m.getRunIdempotency record.idempotencyKey ≠ none
    · obtain ⟨record, hmem, hbound⟩ := hbound
      obtain rfl := Option.mem_def.mp hmem
      rcases replay_alike h hbound hid (hrecord record rfl).2 with
        ⟨error, hm, ht⟩ | ⟨stored, hm, ht, hget⟩
      · refine ⟨m, t, .finished (.error error), .of_read h ?_ ?_ expected_error⟩
        · simp only [PersistPhase.advance, inMemoryRuns, hm]
        · simp only [PersistPhase.advance, postgresRuns, ht]
      · refine ⟨_, _, .finished (.ok { run := stored, replayed := false }), .of_read h ?_ ?_ ?_⟩
        · simp only [PersistPhase.advance, inMemoryRuns, hm]
        · simp only [PersistPhase.advance, postgresRuns, ht]
        · rintro _ ⟨⟩
          exact hget
    · have hunbound : ∀ record ∈ idempotency,
          m.getRunIdempotency record.idempotencyKey = none := by
        intro record hmem
        exact not_not.mp fun hne => hbound ⟨record, hmem, hne⟩
      obtain ⟨m', t', hm, ht, hrows, hget, hkeys⟩ :=
        saveNew_alike h hid (hcase.resolve_right hbound) hrecord hunbound
      refine ⟨m', t', .finished (.ok { run, replayed := false }), ?_, ?_, hrows, ?_, hkeys⟩
      · simp only [PersistPhase.advance, inMemoryRuns, hm]
      · simp only [PersistPhase.advance, postgresRuns, ht]
      · rintro _ ⟨⟩
        exact hget
  | finished answer => exact ⟨_, _, _, .of_read h rfl rfl hphase⟩

/-- What a finished call returns. -/
def PersistPhase.result? : PersistPhase → Option CopilotRunResult
  | .finished answer => answer.toOption
  | _ => none

/-- How many steps a call may still take. -/
def PersistPhase.remaining : PersistPhase → ℕ
  | .lookingUp _ _ => 3
  | .loading _ _ => 2
  | .refreshing _ _ => 1
  | .saving _ _ => 1
  | .finished _ => 0

theorem remaining_withoutExistingRun :
    (PersistPhase.withoutExistingRun services call).remaining ≤ 1 := by
  unfold PersistPhase.withoutExistingRun
  split <;> simp [PersistPhase.remaining]

theorem remaining_handleExistingRun {existing : AdvisoryCopilotRunRecord} :
    (PersistPhase.handleExistingRun services call existing).remaining ≤ 1 := by
  unfold PersistPhase.handleExistingRun
  split
  · simp [PersistPhase.remaining]
  · split <;> simp [PersistPhase.remaining]

theorem remaining_advance {S : Type} (repository : CopilotRunRepository S)
    (services : CopilotServices) (s : S) (phase : PersistPhase) :
    (PersistPhase.advance repository services s phase).2.remaining ≤ phase.remaining - 1 := by
  unfold PersistPhase.advance
  cases phase with
  | lookingUp key call =>
    dsimp only
    split
    · exact remaining_withoutExistingRun.trans (Nat.le_succ 1)
    · split <;> simp [PersistPhase.remaining]
  | loading call existing =>
    dsimp only
    split
    · simp [PersistPhase.remaining]
    · exact remaining_handleExistingRun
  | refreshing existing refreshed =>
    dsimp only
    split <;> simp [PersistPhase.remaining]
  | saving run idempotency =>
    dsimp only
    split <;> simp [PersistPhase.remaining]
  | finished answer => simp [PersistPhase.remaining]

theorem remaining_start : (PersistPhase.start services call).remaining ≤ 3 := by
  unfold PersistPhase.start
  split
  · simp [PersistPhase.remaining]
  · split
    · exact remaining_withoutExistingRun.trans (by decide)
    · simp [PersistPhase.remaining]

/-- A call has an answer after three steps. -/
theorem exists_answer {S : Type} (repository : CopilotRunRepository S) (s : S) :
    ∃ answer, (PersistPhase.persist repository services s call).2 = .finished answer := by
  have hdone : (PersistPhase.persist repository services s call).2.remaining = 0 := by
    have hstart : (PersistPhase.start services call).remaining ≤ 3 := remaining_start
    have hfirst := remaining_advance repository services s (PersistPhase.start services call)
    generalize hlookedUp : PersistPhase.advance repository services s
      (PersistPhase.start services call) = lookedUp at hfirst
    have hsecond := remaining_advance repository services lookedUp.1 lookedUp.2
    generalize hloaded : PersistPhase.advance repository services lookedUp.1 lookedUp.2 = loaded
      at hsecond
    have hthird := remaining_advance repository services loaded.1 loaded.2
    have hpersist : PersistPhase.persist repository services s call =
        PersistPhase.advance repository services loaded.1 loaded.2 := by
      rw [← hloaded, ← hlookedUp]
      rfl
    rw [hpersist]
    omega
  cases hphase : (PersistPhase.persist repository services s call).2 with
  | finished answer => exact ⟨answer, rfl⟩
  | _ =>
    rw [hphase] at hdone
    cases hdone

end Steps

section Runs

variable {services : CopilotServices}

/-- The stores agree. -/
def Consistent (services : CopilotServices)
    (stores : InMemoryCopilotRepository × PostgresCopilotTables) : Prop :=
  SameRows services stores.1 stores.2

theorem consistent_nil : Consistent services ({}, {}) where
  runs := rfl
  runIdempotency := rfl
  runIds := by rintro _ ⟨⟩
  nodup := List.nodup_nil
  bound := by rintro _ ⟨⟩

theorem persistBoth_eq {stores : InMemoryCopilotRepository × PostgresCopilotTables}
    {call : CopilotRunCall} {m : InMemoryCopilotRepository} {t : PostgresCopilotTables}
    {phase phase' : PersistPhase}
    (hmemory : PersistPhase.persist inMemoryRuns services stores.1 call = (m, phase))
    (hpostgres : PersistPhase.persist postgresRuns services stores.2 call = (t, phase')) :
    persistBoth services stores call = some (m, t) := by
  rw [persistBoth, hmemory, hpostgres]

/-- A call that its key resolves, or that finds no run, is answered alike. -/
theorem answeredAlike_of_resolved {stores stores' : InMemoryCopilotRepository × PostgresCopilotTables}
    {call : CopilotRunCall} (h : Consistent services stores)
    (hstep : persistBoth services stores call = some stores')
    (hresolved : ResolvedByKey services stores.1 call) :
    Consistent services stores' ∧ AnsweredAlike services stores call stores' := by
  obtain ⟨m₁, t₁, phase₁, h₁⟩ := exists_stepAlike h (expected_start hresolved)
  obtain ⟨m₂, t₂, phase₂, h₂⟩ := exists_stepAlike h₁.rows h₁.expected
  obtain ⟨m₃, t₃, phase₃, h₃⟩ := exists_stepAlike h₂.rows h₂.expected
  have hmemory : PersistPhase.persist inMemoryRuns services stores.1 call = (m₃, phase₃) := by
    simp only [PersistPhase.persist, h₁.inMemory, h₂.inMemory, h₃.inMemory]
  have hpostgres : PersistPhase.persist postgresRuns services stores.2 call = (t₃, phase₃) := by
    simp only [PersistPhase.persist, h₁.postgres, h₂.postgres, h₃.postgres]
  obtain ⟨answer, hanswer⟩ : ∃ answer, phase₃ = .finished answer := by
    obtain ⟨answer, hanswer⟩ : ∃ answer,
        (PersistPhase.persist inMemoryRuns services stores.1 call).2 = .finished answer :=
      exists_answer inMemoryRuns stores.1
    exact ⟨answer, by rw [← hanswer, hmemory]⟩
  subst hanswer
  rw [persistBoth_eq hmemory hpostgres] at hstep
  cases hstep
  have hkeys : ∀ key, stores.1.getRunIdempotency key ≠ none →
      m₃.getRunIdempotency key = stores.1.getRunIdempotency key := by
    intro key hkey
    have hkey₁ : m₁.getRunIdempotency key ≠ none := by rwa [h₁.keys key hkey]
    have hkey₂ : m₂.getRunIdempotency key ≠ none := by rwa [h₂.keys key hkey₁]
    rw [h₃.keys key hkey₂, h₂.keys key hkey₁, h₁.keys key hkey]
  refine ⟨h₃.rows, ⟨⟨answer, by rw [hmemory], by rw [hpostgres], ?_⟩, ?_, ?_⟩⟩
  · intro result hresult
    have hget : m₃.getRun result.run.runId = some result.run := h₃.expected result hresult
    exact ⟨hget, (h₃.rows.getRun_eq _).trans hget⟩
  · intro key record hrecord
    refine ⟨record, (hkeys key ?_).trans hrecord, rfl⟩
    exact fun hnone => Option.some_ne_none record (hrecord.symm.trans hnone)
  · intro key record hrecord
    have hbound : stores.1.getRunIdempotency key = some record :=
      (h.getRunIdempotency_eq key).symm.trans hrecord
    refine ⟨record, (h₃.rows.getRunIdempotency_eq key).trans ((hkeys key ?_).trans hbound), rfl⟩
    exact fun hnone => Option.some_ne_none record (hbound.symm.trans hnone)

/-- In a run whose calls find no run of their request behind an unbound key, memory and database
answer alike. -/
theorem adapters_agree (calls : List CopilotRunCall)
    (hresolved : EveryStep (persistBoth services)
      (fun stores call _ => ResolvedByKey services stores.1 call) ({}, {}) calls) :
    EveryStep (persistBoth services) (AnsweredAlike services) ({}, {}) calls :=
  EveryStep.of_invariant (I := Consistent services)
    (fun _ _ _ h hstep hresolved => answeredAlike_of_resolved h hstep hresolved)
    consistent_nil hresolved

end Runs

namespace Sample

/-- Requests are told apart by who makes them. -/
def copilotServices : CopilotServices where
  sha256 := fun json => match json with
    | .obj fields =>
      if JsonObject.get fields "requested_by" = .str "advisor_2" then "2" else "1"
    | _ => "0"
  textDigest text := text
  str _ := "None"
  unsafePayload _ := none
  unsafeLineage _ := none

def evidencePacket : CopilotEvidencePacket where
  evidencePacketId := "packet_1"
  evidencePacketHash := "sha256:1"
  actionFamily := .evidenceQa
  portfolioId := "pf_1"
  proposalId := some "pp_1"
  retentionClass := .supportabilityDiagnostic
  dump := []

/-- The evidence is asked about at the given minute. -/
def askBy (requestedBy idempotencyKey draftStatus : String) (minute : ℕ) : CopilotRunCall where
  evidencePacket := evidencePacket
  audience := .advisor
  requestedOutputs := []
  requestedBy := requestedBy
  reason := []
  draftStatus := draftStatus
  outputSections := []
  lineage := [("fallback_reason", .str "LOTUS_AI_UNAVAILABLE")]
  reviewGuidance := []
  guardrailReasons := []
  correlationId := "corr_1"
  idempotencyKey := some idempotencyKey
  now := Proposals.Sample.clock minute

end Sample

open Sample in
/-- Under a second key, the database answers with a run that it has not stored. -/
theorem unstored_run_answered :
    ¬ EveryStep (persistBoth copilotServices) (AnsweredAlike copilotServices) ({}, {})
      [askBy "advisor_1" "key-1" "REVIEW_REQUIRED" 0,
        askBy "advisor_1" "key-2" "REVIEW_REQUIRED" 1] := by
  intro h
  obtain ⟨⟨answer, hmemory, hpostgres, -⟩, -, -⟩ := ((h _ rfl).2 _ rfl).1
  have hanswers : (PersistPhase.persist inMemoryRuns copilotServices
      (PersistPhase.persist inMemoryRuns copilotServices {}
        (askBy "advisor_1" "key-1" "REVIEW_REQUIRED" 0)).1
      (askBy "advisor_1" "key-2" "REVIEW_REQUIRED" 1)).2.result? ≠
    (PersistPhase.persist postgresRuns copilotServices
      (PersistPhase.persist postgresRuns copilotServices {}
        (askBy "advisor_1" "key-1" "REVIEW_REQUIRED" 0)).1
      (askBy "advisor_1" "key-2" "REVIEW_REQUIRED" 1)).2.result? := by decide +kernel
  exact hanswers (by rw [hmemory, hpostgres])

open Sample in
/-- The theorem at a run that is saved, replayed and refreshed, and another one. -/
theorem adapters_agree_four :
    EveryStep (persistBoth copilotServices) (AnsweredAlike copilotServices) ({}, {})
      [askBy "advisor_1" "key-1" "UNAVAILABLE" 0, askBy "advisor_1" "key-1" "UNAVAILABLE" 1,
        askBy "advisor_1" "key-1" "REVIEW_REQUIRED" 2,
        askBy "advisor_2" "key-2" "REVIEW_REQUIRED" 3] :=
  adapters_agree _ (by decide +kernel)

end LotusAdvise.AdvisoryCopilot

import LotusAdvise.Foundations.RecencyDicts
import LotusAdvise.Workspace.Postgres

/-! # Session repositories

A repository hands out sessions and saves them. The one over the session tables hands out a copy
with every read. The one in memory hands out the session that it stores, so that a session which is
changed in place is changed in the store before it is saved.
-/

namespace LotusAdvise.Workspace

/-- `WorkspaceSessionRepository`, and what becomes of the store when a session that was read from it
is changed in place. -/
structure SessionRepository (S : Type) where
  get : S → String → Except WorkspaceError WorkspaceSession
  save : S → WorkspaceSession → Except WorkspaceError S
  changeInPlace : S → WorkspaceSession → S

namespace SessionRepository

variable {S : Type}

/-- The stores that saves and changes of sessions in place lead to. -/
inductive Reached (repository : SessionRepository S) (initial : S) : S → Prop where
  | initial : Reached repository initial initial
  | saves {store store' : S} (session : WorkspaceSession)
    (reached : Reached repository initial store)
    (saved : repository.save store session = .ok store') : Reached repository initial store'
  | changes {store : S} (session : WorkspaceSession) (reached : Reached repository initial store) :
    Reached repository initial (repository.changeInPlace store session)

end SessionRepository

/-- The sessions agree in what identifies them and in their saved versions. -/
structure WorkspaceSession.SameVersions (a b : WorkspaceSession) : Prop where
  workspaceId : a.workspaceId = b.workspaceId
  savedVersions : a.savedVersions = b.savedVersions
  savedVersionCount : a.savedVersionCount = b.savedVersionCount
  latestSavedVersion : a.latestSavedVersion = b.latestSavedVersion

/-- What a draft action relies on: a stored session that is changed apart from its versions can be
saved, and is read back as it was saved. Where sessions are handed out as copies, changing one in
place leaves the store as it is. -/
structure SessionRepository.Lawful {S : Type} (repository : SessionRepository S) (initial : S)
    (aliases : Bool) : Prop where
  get_changeInPlace {store : S} {workspaceId : String} {session session' : WorkspaceSession} :
    repository.Reached initial store → repository.get store workspaceId = .ok session →
      session.SameVersions session' →
        repository.get (repository.changeInPlace store session') workspaceId =
          .ok (if aliases then session' else session)
  save_get {store : S} {workspaceId : String} {session session' : WorkspaceSession} :
    repository.Reached initial store → repository.get store workspaceId = .ok session →
      session.SameVersions session' →
        ∃ store', repository.save store session' = .ok store' ∧
          repository.get store' workspaceId = .ok session'

/-! ## The session tables -/

/-- Every read makes a new session of the rows. -/
def postgresSessions : SessionRepository WorkspaceTables where
  get := WorkspaceTables.get
  save := WorkspaceTables.save
  changeInPlace tables _ := tables

theorem byNumber_byNumber (versions : List WorkspaceSavedVersion) :
    byNumber (byNumber versions) = byNumber versions :=
  (List.pairwise_insertionSort _ versions).insertionSort_eq

theorem WorkspaceSession.stored_stored (session : WorkspaceSession) :
    session.stored.stored = session.stored := by
  simp [WorkspaceSession.stored, refreshSavedVersionMetadata, byNumber_byNumber]

/-- A session that agrees with a stored one in its versions is stored as it is. -/
theorem WorkspaceSession.SameVersions.stored_eq {session session' : WorkspaceSession}
    (h : session.SameVersions session') (hstored : session.stored = session) :
    session'.stored = session' := by
  obtain ⟨-, hversions, hcount, hlatest⟩ := h
  have hsorted : byNumber session.savedVersions = session.savedVersions :=
    congrArg WorkspaceSession.savedVersions hstored
  have hlength : session.savedVersions.length = session.savedVersionCount := by
    have := congrArg WorkspaceSession.savedVersionCount hstored
    rwa [WorkspaceSession.stored, hsorted] at this
  have hlast : session.savedVersions.getLast?.map buildSavedVersionSummary =
      session.latestSavedVersion := by
    have := congrArg WorkspaceSession.latestSavedVersion hstored
    rwa [WorkspaceSession.stored, hsorted] at this
  rw [hversions] at hsorted hlength hlast
  rw [WorkspaceSession.stored, hsorted, refreshSavedVersionMetadata, hlength, hlast, hcount,
    hlatest]

/-- A session that can be saved, and is read back as it is. -/
structure WorkspaceSession.Kept (session : WorkspaceSession) : Prop where
  stored : session.stored = session
  storable : Storable session.savedVersions

theorem WorkspaceSession.kept_stored {session : WorkspaceSession}
    (h : Storable session.savedVersions) : session.stored.Kept := by
  have hsymm : ∀ {a b : WorkspaceSavedVersion},
      a.workspaceVersionId ≠ b.workspaceVersionId ∧ a.versionNumber ≠ b.versionNumber →
        b.workspaceVersionId ≠ a.workspaceVersionId ∧ b.versionNumber ≠ a.versionNumber :=
    fun h => ⟨h.1.symm, h.2.symm⟩
  exact ⟨session.stored_stored, ((List.perm_insertionSort _ _).pairwise_iff hsymm).mpr h⟩

/-- Every session that is read from the tables was saved, under its identifier. -/
theorem postgresSessions_get {tables : WorkspaceTables} {workspaceId : String}
    {session : WorkspaceSession} (hreached : postgresSessions.Reached {} tables)
    (hget : tables.get workspaceId = .ok session) :
    session.workspaceId = workspaceId ∧ session.Kept := by
  induction hreached generalizing workspaceId session with
  | initial => cases hget
  | @saves tables _ saved _ hsaved ih =>
    by_cases hid : workspaceId = saved.workspaceId
    · rw [hid, WorkspaceTables.get_save_self hsaved] at hget
      cases hget
      exact ⟨hid.symm, WorkspaceSession.kept_stored (WorkspaceTables.save_eq_ok.mp hsaved).1⟩
    · rw [WorkspaceTables.get_save_of_ne hsaved hid] at hget
      exact ih hget
  | changes _ _ ih => exact ih hget

theorem postgresSessions_lawful : postgresSessions.Lawful {} false where
  get_changeInPlace _ hget _ := hget
  save_get {tables workspaceId session session'} hreached hget hsame := by
    obtain ⟨hid, hkept⟩ := postgresSessions_get hreached hget
    have hstorable : Storable session'.savedVersions := hsame.savedVersions ▸ hkept.storable
    obtain ⟨tables', hsaved⟩ := tables.save_of_storable hstorable
    refine ⟨tables', hsaved, ?_⟩
    have hback := WorkspaceTables.get_save_self hsaved
    rwa [hsame.stored_eq hkept.stored, ← hsame.workspaceId, hid] at hback

/-! ## Memory -/

/-- The sessions in the order of their last saves. -/
abbrev WorkspaceSessions := Dict String WorkspaceSession

/-- At most `maxSize` sessions are kept, those that were saved last. -/
def inMemorySessions (maxSize : ℕ) : SessionRepository WorkspaceSessions where
  get sessions workspaceId :=
    match Dict.get? sessions workspaceId with
    | none => .error (.notFound "WORKSPACE_NOT_FOUND")
    | some session => .ok session
  save sessions session :=
    .ok (Dict.evictOldest maxSize
      (Dict.moveToEnd (Dict.set sessions session.workspaceId session) session.workspaceId) 0).1
  changeInPlace sessions session :=
    -- a session that is no longer in the store is changed outside it
    match Dict.get? sessions session.workspaceId with
    | none => sessions
    | some _ => Dict.set sessions session.workspaceId session

section Memory

variable {maxSize : ℕ} {sessions sessions' : WorkspaceSessions} {workspaceId : String}
  {session session' : WorkspaceSession}

theorem inMemorySessions_get_eq_ok :
    (inMemorySessions maxSize).get sessions workspaceId = .ok session ↔
      Dict.get? sessions workspaceId = some session := by
  simp only [inMemorySessions]
  split
  · next h => simp [h]
  · next h => simp [h]

/-- Every session in memory is stored under its identifier. -/
theorem inMemorySessions_keyed (hreached : (inMemorySessions maxSize).Reached [] sessions) :
    ∀ item ∈ sessions, item.2.workspaceId = item.1 := by
  induction hreached with
  | initial => simp
  | @saves sessions _ saved _ hsaved ih =>
    cases hsaved
    intro item hitem
    have hmem := (Dict.evictOldest_sublist _ _ _).subset hitem
    rw [Dict.moveToEnd_set, List.mem_append, List.mem_singleton] at hmem
    rcases hmem with hmem | rfl
    · exact ih item (Dict.mem_pop.mp hmem).1
    · rfl
  | @changes sessions changed _ ih =>
    simp only [inMemorySessions]
    split
    · exact ih
    · rintro ⟨id, stored⟩ hitem
      rcases Dict.mem_set hitem with ⟨rfl, rfl⟩ | ⟨-, hmem⟩
      · rfl
      · exact ih _ hmem

theorem inMemorySessions_get (hreached : (inMemorySessions maxSize).Reached [] sessions)
    (hget : (inMemorySessions maxSize).get sessions workspaceId = .ok session) :
    session.workspaceId = workspaceId :=
  inMemorySessions_keyed hreached _ (Dict.mem_of_get? (inMemorySessions_get_eq_ok.mp hget))

/-- The session that was saved last is the last to be dropped. -/
theorem get?_evictOldest (hsize : 0 < maxSize) :
    Dict.get? (Dict.evictOldest maxSize
      (Dict.moveToEnd (Dict.set sessions workspaceId session) workspaceId) 0).1 workspaceId =
        some session := by
  have hkept : ∀ dropped, Dict.get? ((Dict.pop sessions workspaceId).drop dropped ++
      [(workspaceId, session)]) workspaceId = some session := by
    intro dropped
    have hfresh : workspaceId ∉ ((Dict.pop sessions workspaceId).drop dropped).map Prod.fst :=
      fun hmem => Dict.key_notMem_pop (List.map_subset _ (List.drop_subset _ _) hmem)
    rw [← Dict.set_of_notMem hfresh]
    exact Dict.get?_set_self
  have hlength : (Dict.pop sessions workspaceId ++ [(workspaceId, session)]).length - maxSize ≤
      (Dict.pop sessions workspaceId).length := by
    rw [List.length_append, List.length_singleton]
    omega
  rw [Dict.moveToEnd_set, Dict.evictOldest_eq, List.drop_append_of_le_length hlength]
  exact hkept _

theorem inMemorySessions_lawful (hsize : 0 < maxSize) :
    (inMemorySessions maxSize).Lawful [] true where
  get_changeInPlace {sessions workspaceId session session'} hreached hget hsame := by
    have hid := hsame.workspaceId.symm.trans (inMemorySessions_get hreached hget)
    have hstored := inMemorySessions_get_eq_ok.mp hget
    rw [← hid] at hstored
    refine inMemorySessions_get_eq_ok.mpr ?_
    simp only [inMemorySessions, hstored, ← hid]
    exact Dict.get?_set_self
  save_get {sessions workspaceId session session'} hreached hget hsame := by
    have hid := hsame.workspaceId.symm.trans (inMemorySessions_get hreached hget)
    refine ⟨_, rfl, inMemorySessions_get_eq_ok.mpr ?_⟩
    rw [← hid]
    exact get?_evictOldest hsize

end Memory

end LotusAdvise.Workspace

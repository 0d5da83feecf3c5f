import LotusAdvise.Foundations.Tables
import LotusAdvise.Workspace.Sessions
import LotusAdvise.Workspace.Versions

/-! # The session tables

A save writes the whole session in one transaction: it overwrites the row of the session and
replaces all rows of its saved versions. Reading a session back is characterized by
`get_save_self` and `get_save_of_ne`, which the proofs over runs use.
-/

namespace LotusAdvise.Workspace

structure WorkspaceSessionRow where
  workspaceId : String
  /-- The dump of the session, which leaves out the saved versions. -/
  sessionJson : WorkspaceSession
deriving DecidableEq

structure WorkspaceSavedVersionRow where
  workspaceId : String
  workspaceVersionId : String
  versionNo : ℕ
  savedVersionJson : WorkspaceSavedVersion
deriving DecidableEq

structure WorkspaceTables where
  sessions : List WorkspaceSessionRow := []
  savedVersions : List WorkspaceSavedVersionRow := []

def workspaceSessionValues (session : WorkspaceSession) : WorkspaceSessionRow where
  workspaceId := session.workspaceId
  sessionJson := { session with savedVersions := [] }

def workspaceSavedVersionValues (workspaceId : String) (version : WorkspaceSavedVersion) :
    WorkspaceSavedVersionRow where
  workspaceId
  workspaceVersionId := version.workspaceVersionId
  versionNo := version.versionNumber
  savedVersionJson := version

/-- The rows agree in the primary key or in the unique version number. -/
def WorkspaceSavedVersionRow.Conflicts (a b : WorkspaceSavedVersionRow) : Prop :=
  a.workspaceId = b.workspaceId ∧
    (a.workspaceVersionId = b.workspaceVersionId ∨ a.versionNo = b.versionNo)

instance (a b : WorkspaceSavedVersionRow) : Decidable (a.Conflicts b) :=
  inferInstanceAs (Decidable (_ ∧ _))

def insertSavedVersion (rows : List WorkspaceSavedVersionRow) (row : WorkspaceSavedVersionRow) :
    Except WorkspaceError (List WorkspaceSavedVersionRow) :=
  if ∃ stored ∈ rows, stored.Conflicts row then
    .error (.integrity "advisory_workspace_saved_versions")
  else .ok (rows ++ [row])

namespace WorkspaceTables

/-- A version that breaks a constraint takes the whole transaction back. -/
def save (tables : WorkspaceTables) (session : WorkspaceSession) :
    Except WorkspaceError WorkspaceTables :=
  ((session.savedVersions.map (workspaceSavedVersionValues session.workspaceId)).foldlM
      insertSavedVersion
      (tables.savedVersions.filter fun row => row.workspaceId ≠ session.workspaceId)).map
    fun savedVersions =>
      { sessions := Tables.upsert WorkspaceSessionRow.workspaceId tables.sessions
          (workspaceSessionValues session)
        savedVersions }

/-- The rows of the versions of a session in the order of their numbers, which are unique. -/
def savedVersionRows (tables : WorkspaceTables) (workspaceId : String) :
    List WorkspaceSavedVersionRow :=
  (tables.savedVersions.filter fun row => row.workspaceId = workspaceId).insertionSort
    fun a b => a.versionNo ≤ b.versionNo

def workspaceSessionFromRows (sessionRow : WorkspaceSessionRow)
    (savedVersionRows : List WorkspaceSavedVersionRow) : WorkspaceSession :=
  refreshSavedVersionMetadata { sessionRow.sessionJson with
    savedVersions := savedVersionRows.map (·.savedVersionJson) }

def get (tables : WorkspaceTables) (workspaceId : String) :
    Except WorkspaceError WorkspaceSession :=
  match Tables.lookup WorkspaceSessionRow.workspaceId tables.sessions workspaceId with
  | none => .error (.notFound "WORKSPACE_NOT_FOUND")
  | some row => .ok (workspaceSessionFromRows row (tables.savedVersionRows workspaceId))

end WorkspaceTables

/-- The versions can be stored together: neither an identifier nor a number occurs twice. -/
def Storable (versions : List WorkspaceSavedVersion) : Prop :=
  versions.Pairwise fun a b =>
    a.workspaceVersionId ≠ b.workspaceVersionId ∧ a.versionNumber ≠ b.versionNumber

instance (versions : List WorkspaceSavedVersion) : Decidable (Storable versions) :=
  inferInstanceAs (Decidable (List.Pairwise _ _))

/-- The versions of a session as they are read back. -/
def byNumber (versions : List WorkspaceSavedVersion) : List WorkspaceSavedVersion :=
  versions.insertionSort fun a b => a.versionNumber ≤ b.versionNumber

/-- The session as it is read back after a save. -/
def WorkspaceSession.stored (session : WorkspaceSession) : WorkspaceSession :=
  refreshSavedVersionMetadata { session with savedVersions := byNumber session.savedVersions }

section Insert

variable {rows rows' : List WorkspaceSavedVersionRow} {row : WorkspaceSavedVersionRow}
  {workspaceId : String} {versions : List WorkspaceSavedVersion}

theorem insertSavedVersion_eq_ok : insertSavedVersion rows row = .ok rows' ↔
    (∀ stored ∈ rows, ¬ stored.Conflicts row) ∧ rows' = rows ++ [row] := by
  unfold insertSavedVersion
  split
  · next h =>
    obtain ⟨stored, hmem, hconflict⟩ := h
    simp only [reduceCtorEq, false_iff, not_and]
    intro hfree
    exact (hfree stored hmem hconflict).elim
  · next h =>
    push Not at h
    rw [Except.ok.injEq, and_iff_right h, eq_comm]

theorem conflicts_values {a b : WorkspaceSavedVersion} :
    (workspaceSavedVersionValues workspaceId a).Conflicts
        (workspaceSavedVersionValues workspaceId b) ↔
      a.workspaceVersionId = b.workspaceVersionId ∨ a.versionNumber = b.versionNumber := by
  simp [WorkspaceSavedVersionRow.Conflicts, workspaceSavedVersionValues]

theorem filter_values_self :
    ((rows.filter fun row => row.workspaceId ≠ workspaceId) ++
        versions.map (workspaceSavedVersionValues workspaceId)).filter
      (fun row => row.workspaceId = workspaceId) =
        versions.map (workspaceSavedVersionValues workspaceId) := by
  rw [List.filter_append, List.filter_filter, List.filter_eq_nil_iff.mpr (by simp),
    List.nil_append, List.filter_eq_self.mpr]
  intro row hrow
  obtain ⟨version, -, rfl⟩ := List.mem_map.mp hrow
  exact decide_eq_true rfl

theorem filter_values_of_ne {other : String} (hne : other ≠ workspaceId) :
    ((rows.filter fun row => row.workspaceId ≠ workspaceId) ++
        versions.map (workspaceSavedVersionValues workspaceId)).filter
      (fun row => row.workspaceId = other) = rows.filter fun row => row.workspaceId = other := by
  have hnew : (versions.map (workspaceSavedVersionValues workspaceId)).filter
      (fun row => row.workspaceId = other) = [] := by
    refine List.filter_eq_nil_iff.mpr fun row hrow => ?_
    obtain ⟨version, -, rfl⟩ := List.mem_map.mp hrow
    exact fun hid => hne.symm (of_decide_eq_true hid)
  rw [List.filter_append, List.filter_filter, hnew, List.append_nil]
  refine List.filter_congr fun row _ => ?_
  by_cases hrow : row.workspaceId = other
  · simp [hrow, hne]
  · simp [hrow]

theorem map_byNumber : (byNumber versions).map (workspaceSavedVersionValues workspaceId) =
    (versions.map (workspaceSavedVersionValues workspaceId)).insertionSort
      fun a b => a.versionNo ≤ b.versionNo :=
  List.map_insertionSort _ _ _ _ fun _ _ _ _ => Iff.rfl

/-- Versions are inserted one after the other exactly if no two rows conflict. -/
theorem foldlM_insertSavedVersion {inserts : List WorkspaceSavedVersionRow} :
    inserts.foldlM insertSavedVersion rows = .ok rows' ↔
      (∀ row ∈ inserts, ∀ stored ∈ rows, ¬ stored.Conflicts row) ∧
        (inserts.Pairwise fun a b => ¬ a.Conflicts b) ∧ rows' = rows ++ inserts := by
  induction inserts generalizing rows with
  | nil => simp [foldlM_nil_eq_ok.trans eq_comm, -List.foldlM_nil]
  | cons row inserts ih =>
    simp only [foldlM_cons_eq_ok, insertSavedVersion_eq_ok, ih, List.pairwise_cons,
      List.forall_mem_cons]
    constructor
    · rintro ⟨_, ⟨hfree, rfl⟩, hrest, hpairwise, rfl⟩
      refine ⟨⟨hfree, fun other hother stored hstored => ?_⟩, ⟨fun other hother => ?_, hpairwise⟩,
        by simp⟩
      · exact hrest other hother stored (List.mem_append_left _ hstored)
      · exact hrest other hother row (List.mem_append_right _ (List.mem_singleton_self row))
    · rintro ⟨⟨hfree, hrest⟩, ⟨hrow, hpairwise⟩, rfl⟩
      refine ⟨rows ++ [row], ⟨hfree, rfl⟩, fun other hother stored hstored => ?_, hpairwise,
        by simp⟩
      rcases List.mem_append.mp hstored with hstored | hstored
      · exact hrest other hother stored hstored
      · rw [List.mem_singleton.mp hstored]
        exact hrow other hother

end Insert

namespace WorkspaceTables

variable {tables tables' : WorkspaceTables} {session : WorkspaceSession} {workspaceId : String}

theorem save_eq_ok : tables.save session = .ok tables' ↔ Storable session.savedVersions ∧
    tables' =
      { sessions := Tables.upsert WorkspaceSessionRow.workspaceId tables.sessions
          (workspaceSessionValues session)
        savedVersions :=
          (tables.savedVersions.filter fun row => row.workspaceId ≠ session.workspaceId) ++
            session.savedVersions.map (workspaceSavedVersionValues session.workspaceId) } := by
  have hstorable : (session.savedVersions.map
      (workspaceSavedVersionValues session.workspaceId)).Pairwise (fun a b => ¬ a.Conflicts b) ↔
        Storable session.savedVersions := by
    simp only [List.pairwise_map, conflicts_values, not_or, Storable, ne_eq]
  have hothers : ∀ row ∈ session.savedVersions.map
      (workspaceSavedVersionValues session.workspaceId),
      ∀ stored ∈ tables.savedVersions.filter fun row => row.workspaceId ≠ session.workspaceId,
        ¬ stored.Conflicts row := by
    intro row hrow stored hstored hconflict
    obtain ⟨version, _, rfl⟩ := List.mem_map.mp hrow
    exact of_decide_eq_true (List.mem_filter.mp hstored).2 hconflict.1
  simp only [save, map_eq_ok, foldlM_insertSavedVersion, hstorable]
  constructor
  · rintro ⟨_, ⟨_, hs, rfl⟩, rfl⟩
    exact ⟨hs, rfl⟩
  · rintro ⟨hs, rfl⟩
    exact ⟨_, ⟨hothers, hs, rfl⟩, rfl⟩

theorem get_save_self (h : tables.save session = .ok tables') :
    tables'.get session.workspaceId = .ok session.stored := by
  obtain ⟨-, rfl⟩ := save_eq_ok.mp h
  have hlookup : Tables.lookup WorkspaceSessionRow.workspaceId
      (Tables.upsert WorkspaceSessionRow.workspaceId tables.sessions (workspaceSessionValues session))
      session.workspaceId = some (workspaceSessionValues session) := by
    rw [Tables.lookup_upsert]
    exact if_pos rfl
  simp only [get, hlookup, savedVersionRows, filter_values_self, ← map_byNumber,
    workspaceSessionFromRows, List.map_map]
  simp [WorkspaceSession.stored, workspaceSessionValues, Function.comp_def,
    workspaceSavedVersionValues]

theorem get_save_of_ne (h : tables.save session = .ok tables')
    (hne : workspaceId ≠ session.workspaceId) : tables'.get workspaceId = tables.get workspaceId := by
  obtain ⟨-, rfl⟩ := save_eq_ok.mp h
  have hlookup : Tables.lookup WorkspaceSessionRow.workspaceId
      (Tables.upsert WorkspaceSessionRow.workspaceId tables.sessions (workspaceSessionValues session))
      workspaceId = Tables.lookup WorkspaceSessionRow.workspaceId tables.sessions workspaceId := by
    rw [Tables.lookup_upsert]
    exact if_neg hne.symm
  simp only [get, hlookup, savedVersionRows, filter_values_of_ne hne]

/-- A save can only fail for versions that cannot be stored together. -/
theorem save_of_storable (h : Storable session.savedVersions) :
    ∃ tables', tables.save session = .ok tables' :=
  ⟨_, save_eq_ok.mpr ⟨h, rfl⟩⟩

end WorkspaceTables

end LotusAdvise.Workspace

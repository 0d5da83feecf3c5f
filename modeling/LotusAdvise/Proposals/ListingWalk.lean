import LotusAdvise.Foundations.Runs
import LotusAdvise.Proposals.Listing
import LotusAdvise.Proposals.Postgres

/-! # Walks over the listed proposals

A client follows the cursors of `list_proposals` while proposals change their states. A
proposal is steady when it has matched the filters in every state since the walk began. The
walk is complete when it has returned no steady proposal twice and, once the last page is
there, none of them not at all.
-/

namespace LotusAdvise.Proposals

open Pagination Runs

/-- A walk, with the identifiers returned so far and those of the steady proposals. -/
structure Walk where
  table : ProposalTable
  progress : Progress String
  returned : List String
  steady : List String

inductive WalkLabel where
  | listProposals
  | transition (transition : ProposalTransition)

namespace Walk

section Definitions

variable (listing : ProposalListing) (filters : ProposalFilters) (limit : ℕ)

def start (table : ProposalTable) : Walk where
  table := table
  progress := .next none
  returned := []
  steady := (table.entries listing).filter (table.matches listing filters)

/-- A page is asked for until one came without a cursor. A call that raises ends the walk. -/
def step (walk : Walk) : WalkLabel → Option Walk
  | .listProposals =>
    match walk.progress with
    | .finished => none
    | .next cursor =>
      (listing.listProposals walk.table.rows filters limit cursor).toOption.map fun (page, next) =>
        { walk with
          progress := .ofCursor next
          returned := walk.returned ++ page.map (·.proposalId) }
  | .transition transition =>
    some { walk with
      table := walk.table.transition transition
      steady := walk.steady.filter ((walk.table.transition transition).matches listing filters) }

def Complete (walk : Walk) : Prop :=
  ∀ proposalId ∈ walk.steady, walk.returned.count proposalId ≤ 1 ∧
    (walk.progress = .finished → walk.returned.count proposalId = 1)

instance : DecidablePred Complete := fun walk =>
  inferInstanceAs (Decidable (∀ proposalId ∈ walk.steady, _ ∧ _))

/-- The cursor of a call whose proposal no longer matches the filters. -/
def lostCursor (walk : Walk) : WalkLabel → Option String
  | .transition _ => none
  | .listProposals =>
    match walk.progress with
    | .next (some cursor) => if walk.table.matches listing filters cursor then none else some cursor
    | _ => none

/-- When the proposal of the cursor no longer matches, all steady proposals are listed after it. -/
def LostBeforeAll (walk : Walk) (label : WalkLabel) (_ : Walk) : Prop :=
  ∀ cursor ∈ walk.lostCursor listing filters label, ∀ proposalId ∈ walk.steady,
    proposalId ∈ after cursor (walk.table.entries listing)

/-- When the proposal of the cursor no longer matches, no steady proposal is listed after it. -/
def LostAfterAll (walk : Walk) (label : WalkLabel) (_ : Walk) : Prop :=
  ∀ cursor ∈ walk.lostCursor listing filters label, ∀ proposalId ∈ walk.steady,
    proposalId ∉ after cursor (walk.table.entries listing)

instance (walk : Walk) (label : WalkLabel) (walk' : Walk) :
    Decidable (LostBeforeAll listing filters walk label walk') := by
  unfold LostBeforeAll
  infer_instance

instance (walk : Walk) (label : WalkLabel) (walk' : Walk) :
    Decidable (LostAfterAll listing filters walk label walk') := by
  unfold LostAfterAll
  infer_instance

/-- The steady proposals match and are accounted for. -/
structure OnTrack (walk : Walk) : Prop where
  accounted : Accounted (walk.table.entries listing) walk.steady walk.returned walk.progress
  matching : ∀ proposalId ∈ walk.steady, walk.table.matches listing filters proposalId
  named : ∀ cursor, walk.progress = .next (some cursor) → cursor ≠ ""

end Definitions

section Steps

variable {listing : ProposalListing} {filters : ProposalFilters} {limit : ℕ} {walk walk' : Walk}
  {label : WalkLabel} {lost : List String → List String} {table : ProposalTable}

theorem exists_page_of_step (h : walk.step listing filters limit .listProposals = some walk') :
    ∃ cursor page next, walk.progress = .next cursor ∧
      listing.listProposals walk.table.rows filters limit cursor = .ok (page, next) ∧
      walk' = { walk with
        progress := .ofCursor next
        returned := walk.returned ++ page.map (·.proposalId) } := by
  simp only [step] at h
  rcases hprogress : walk.progress with cursor | _
  · simp only [hprogress] at h
    obtain ⟨⟨page, next⟩, hpage, rfl⟩ := Option.map_eq_some_iff.mp h
    exact ⟨cursor, page, next, rfl, toOption_eq_some.mp hpage, rfl⟩
  · simp only [hprogress] at h
    cases h

theorem mem_lostCursor {cursor : String} : cursor ∈ walk.lostCursor listing filters label ↔
    label = .listProposals ∧ walk.progress = .next (some cursor) ∧
      ¬ walk.table.matches listing filters cursor := by
  unfold lostCursor
  cases label with
  | transition => simp
  | listProposals =>
    rcases walk.progress with (_ | found) | _
    · simp
    · by_cases hmatch : walk.table.matches listing filters found
      · simp only [if_pos hmatch, Option.mem_def, Progress.next.injEq, Option.some.injEq]
        exact iff_of_false (by simp) fun h => h.2.2 (h.2.1 ▸ hmatch)
      · simp only [if_neg hmatch, Option.mem_some_iff, Progress.next.injEq, Option.some.injEq,
          true_and]
        exact ⟨fun heq => ⟨heq, heq ▸ hmatch⟩, And.left⟩
    · simp

/-- A proposal is steady when it has matched in the first state and after every step. -/
theorem mem_steady_iff {labels : List WalkLabel} {proposalId : String}
    (h : run (step listing filters limit) walk labels = some walk') :
    proposalId ∈ walk'.steady ↔ proposalId ∈ walk.steady ∧
      EveryStep (step listing filters limit) (fun _ label next =>
        label = .listProposals ∨ next.table.matches listing filters proposalId) walk labels := by
  induction labels generalizing walk with
  | nil =>
    cases h
    simp
  | cons label labels ih =>
    obtain ⟨next, hstep, hrun⟩ := run_cons_eq_some.mp h
    rw [ih hrun, everyStep_cons]
    simp only [hstep, Option.some.injEq, forall_eq']
    cases label with
    | listProposals =>
      obtain ⟨_, _, _, -, -, rfl⟩ := exists_page_of_step hstep
      simp
    | transition transition =>
      obtain rfl := Option.some.inj hstep
      simp [and_assoc]

theorem OnTrack.complete (h : walk.OnTrack listing filters) : walk.Complete := by
  intro proposalId hsteady
  rw [(h.accounted proposalId hsteady).2]
  refine ⟨by split <;> omega, fun hfinished => ?_⟩
  rw [hfinished, Progress.todo, if_neg List.not_mem_nil]

theorem onTrack_start :
    (start listing filters table).OnTrack listing filters where
  accounted := accounted_start (List.filter_subset_self _)
  matching _ h := (List.mem_filter.mp h).2
  named _ h := by cases h

/-- A page is one of the table's entries from where the walk resumes. -/
theorem step_listProposals (hr : listing.Refines lost) (hs : walk.OnTrack listing filters)
    (hstep : walk.step listing filters limit .listProposals = some walk') :
    ∃ cursor, walk.progress = .next cursor ∧
      walk' = { walk with
        progress := .ofCursor (nextCursor ((walk.table.rest listing filters lost cursor).filter
          (walk.table.matches listing filters)) limit)
        returned := walk.returned ++ ((walk.table.rest listing filters lost cursor).filter
          (walk.table.matches listing filters)).take limit } := by
  obtain ⟨cursor, page, next, hprogress, hpage, rfl⟩ := exists_page_of_step hstep
  have hnamed : ∀ c ∈ cursor, c ≠ "" := by
    rintro c rfl
    exact hs.named c hprogress
  obtain ⟨hids, rfl⟩ := hr.page _ _ _ _ _ _ hnamed hpage
  exact ⟨cursor, hprogress, by rw [hids]⟩

theorem OnTrack.step (hr : listing.Refines lost) (hlost : ∀ entries, lost entries <:+ entries)
    (hlimit : 0 < limit) (hs : walk.OnTrack listing filters)
    (hstep : walk.step listing filters limit label = some walk')
    (h : ∀ cursor ∈ walk.lostCursor listing filters label, ∀ proposalId ∈ walk.steady,
      proposalId ∈ lost (walk.table.entries listing) ↔
        proposalId ∈ after cursor (walk.table.entries listing)) :
    walk'.OnTrack listing filters := by
  cases label with
  | listProposals =>
    obtain ⟨cursor, hprogress, rfl⟩ := step_listProposals hr hs hstep
    have hnodup : (walk.table.entries listing).Nodup :=
      hr.entries_perm.nodup_iff.mpr walk.table.distinct
    refine ⟨hs.accounted.page hnodup hlimit hs.matching ?_ ?_, hs.matching, ?_⟩
    · rcases cursor with _ | cursor
      · exact List.suffix_rfl
      · rw [ProposalTable.rest]
        split
        · exact after_suffix
        · exact hlost _
    · intro proposalId hsteady
      rw [hprogress]
      rcases cursor with _ | cursor
      · exact Iff.rfl
      · rw [ProposalTable.rest, Progress.todo]
        split
        · exact Iff.rfl
        · next hmatch =>
          exact h cursor (mem_lostCursor.mpr ⟨rfl, hprogress, hmatch⟩) proposalId hsteady
    · intro next hnext
      rcases hcursor : nextCursor ((walk.table.rest listing filters lost cursor).filter
        (walk.table.matches listing filters)) limit with _ | found
      · rw [hcursor] at hnext
        cases hnext
      · rw [hcursor] at hnext
        cases hnext
        obtain ⟨row, hrow, rfl, -⟩ :=
          ProposalTable.matches_iff.mp (List.mem_filter.mp (mem_of_nextCursor hcursor)).2
        exact walk.table.named row hrow
  | transition transition =>
    obtain rfl := Option.some.inj hstep
    refine ⟨?_, fun _ hsteady => (List.mem_filter.mp hsteady).2, hs.named⟩
    rw [hr.entries_transition]
    exact hs.accounted.subset (List.filter_subset_self _)

/-- A Postgres walk that stops at a lost cursor is complete when nothing steady is left. -/
theorem OnTrack.lostAfterAll (hr : listing.Refines fun _ => []) (hs : walk.OnTrack listing filters)
    (hstep : walk.step listing filters limit label = some walk') (h : walk'.Complete) :
    walk.LostAfterAll listing filters label walk' := by
  intro cursor hcursor proposalId hsteady
  obtain ⟨rfl, hlost, hmatch⟩ := mem_lostCursor.mp hcursor
  obtain ⟨found, hprogress, rfl⟩ := step_listProposals hr hs hstep
  obtain rfl : found = some cursor := Progress.next.inj (hprogress.symm.trans hlost)
  -- the cursor is lost: no entry is left for the page, and there is no next one
  have hrest : walk.table.rest listing filters (fun _ => []) (some cursor) = [] := if_neg hmatch
  have hone : walk.returned.count proposalId = 1 := by
    have hdone := (h proposalId hsteady).2
    rw [hrest] at hdone
    simpa using hdone rfl
  have hcount := (hs.accounted proposalId hsteady).2
  rw [hone, hprogress, Progress.todo] at hcount
  intro hafter
  rw [if_pos hafter] at hcount
  omega

end Steps

end Walk

/-- A walk along the in-memory repository is complete in every state when at each lost cursor the
steady proposals are all listed after it; a walk along the Postgres repository is complete in every
state exactly when at each lost cursor none is. -/
theorem walks_complete (table : ProposalTable) (filters : ProposalFilters) (limit : ℕ)
    (hlimit : 0 < limit) :
    (∀ labels,
      EveryStep (Walk.step inMemoryListing filters limit)
          (Walk.LostBeforeAll inMemoryListing filters) (.start inMemoryListing filters table) labels →
        EveryState (Walk.step inMemoryListing filters limit) Walk.Complete
          (.start inMemoryListing filters table) labels) ∧
    ∀ collation labels,
      EveryState (Walk.step (postgresListing collation) filters limit) Walk.Complete
          (.start (postgresListing collation) filters table) labels ↔
        EveryStep (Walk.step (postgresListing collation) filters limit)
          (Walk.LostAfterAll (postgresListing collation) filters)
          (.start (postgresListing collation) filters table) labels := by
  constructor
  · intro labels h
    have hstart : (Walk.start inMemoryListing filters table).OnTrack inMemoryListing filters :=
      Walk.onTrack_start
    refine ⟨hstart.complete, h.of_invariant (fun walk label walk' hs hstep hlost => ?_) hstart⟩
    have hs' := hs.step inMemoryListing_refines (fun _ => List.suffix_rfl) hlimit hstep
      fun cursor hcursor proposalId hsteady =>
        iff_of_true (hs.accounted proposalId hsteady).1 (hlost cursor hcursor proposalId hsteady)
    exact ⟨hs', hs'.complete⟩
  · intro collation labels
    have hr := postgresListing_refines collation
    have hstart : (Walk.start (postgresListing collation) filters table).OnTrack
        (postgresListing collation) filters := Walk.onTrack_start
    have hkeep : ∀ (walk : Walk) label (walk' : Walk), walk.OnTrack (postgresListing collation) filters →
        walk.step (postgresListing collation) filters limit label = some walk' →
        walk.LostAfterAll (postgresListing collation) filters label walk' →
        walk'.OnTrack (postgresListing collation) filters := fun _ _ _ hs hstep hlost =>
      hs.step hr (fun _ => List.nil_suffix) hlimit hstep fun cursor hcursor proposalId hsteady =>
        iff_of_false List.not_mem_nil (hlost cursor hcursor proposalId hsteady)
    exact everyState_iff_of_invariant hkeep (fun _ _ _ hs hstep =>
      ⟨hs.lostAfterAll hr hstep, fun hlost => (hkeep _ _ _ hs hstep hlost).complete⟩) hstart
      hstart.complete

namespace Sample

def listed (proposalId : String) (minute : ℕ) : ProposalRecord where
  proposalId := proposalId
  portfolioId := "pf_01"
  mandateId := none
  jurisdiction := some "SG"
  createdBy := "advisor_1"
  createdAt := clock minute
  lastEventAt := clock minute
  currentState := .draft
  currentVersionNo := 1
  title := none
  advisorNotes := none
  lifecycleOrigin := .directCreate
  sourceWorkspaceId := none

def drafts : ProposalTable where
  rows := [listed "pp_001" 1, listed "pp_002" 2, listed "pp_003" 3]
  distinct := by decide
  named := by decide

/-- The proposal is submitted for its risk review. -/
def submitted (proposalId : String) (minute : ℕ) : WalkLabel :=
  .transition ⟨proposalId, .riskReview, 1, clock minute⟩

def draftFilter : ProposalFilters := { state := some "DRAFT" }

end Sample

/-- A proposal is submitted after it was returned, but the cursor names another one. -/
def undisturbedWalk : List WalkLabel :=
  [.listProposals, Sample.submitted "pp_003" 4, .listProposals]

theorem walks_complete_undisturbed :
    EveryState (Walk.step inMemoryListing Sample.draftFilter 2) Walk.Complete
      (.start inMemoryListing Sample.draftFilter Sample.drafts) undisturbedWalk ∧
    EveryState (Walk.step (postgresListing Sample.codePoints) Sample.draftFilter 2) Walk.Complete
      (.start (postgresListing Sample.codePoints) Sample.draftFilter Sample.drafts)
      undisturbedWalk :=
  have h := walks_complete Sample.drafts Sample.draftFilter 2 (by decide)
  ⟨h.1 undisturbedWalk (by decide +kernel),
    (h.2 Sample.codePoints undisturbedWalk).mpr (by decide +kernel)⟩

/-- The proposal of the cursor is submitted between the two calls. -/
def lostCursorWalk : List WalkLabel :=
  [.listProposals, Sample.submitted "pp_002" 4, .listProposals]

/-- In memory the newest proposal comes twice, in Postgres the oldest one does not come at all. -/
theorem walks_complete_lostCursor :
    ¬ EveryState (Walk.step inMemoryListing Sample.draftFilter 2) Walk.Complete
      (.start inMemoryListing Sample.draftFilter Sample.drafts) lostCursorWalk ∧
    ¬ EveryState (Walk.step (postgresListing Sample.codePoints) Sample.draftFilter 2) Walk.Complete
      (.start (postgresListing Sample.codePoints) Sample.draftFilter Sample.drafts)
      lostCursorWalk := by
  constructor
  · decide +kernel
  · decide +kernel

end LotusAdvise.Proposals

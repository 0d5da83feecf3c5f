import LotusAdvise.Foundations.Pagination
import LotusAdvise.Foundations.Tables
import LotusAdvise.Proposals.Commands

/-! # Listing proposals

One page of the proposals that match the filters, newest first. The cursor is the
identifier of the last proposal of the page before, and both repositories look it up among
the proposals that match now. When it is not there, the in-memory repository starts again
from the newest proposal, and the subquery of the Postgres repository is null, so that no
row passes.
-/

namespace LotusAdvise.Proposals

open Pagination Tables

structure ProposalFilters where
  portfolioId : Option String := none
  state : Option String := none
  createdBy : Option String := none
  createdFrom : Option DateTime := none
  createdTo : Option DateTime := none

/-- The proposals of a repository; an identifier is `pp_` and a random part. -/
structure ProposalTable where
  rows : List ProposalRecord
  distinct : (rows.map ProposalRecord.proposalId).Nodup
  named : ∀ row ∈ rows, row.proposalId ≠ ""

/-- What a lifecycle transition changes in the row of its proposal. -/
structure ProposalTransition where
  proposalId : String
  currentState : ProposalWorkflowState
  currentVersionNo : ℕ
  lastEventAt : DateTime

def ProposalTransition.apply (transition : ProposalTransition) (row : ProposalRecord) :
    ProposalRecord :=
  if row.proposalId = transition.proposalId then
    { row with
      currentState := transition.currentState
      currentVersionNo := transition.currentVersionNo
      lastEventAt := transition.lastEventAt }
  else row

@[simp] theorem ProposalTransition.apply_proposalId (transition : ProposalTransition)
    (row : ProposalRecord) : (transition.apply row).proposalId = row.proposalId := by
  unfold ProposalTransition.apply
  split <;> rfl

@[simp] theorem ProposalTransition.apply_createdAt (transition : ProposalTransition)
    (row : ProposalRecord) : (transition.apply row).createdAt = row.createdAt := by
  unfold ProposalTransition.apply
  split <;> rfl

def ProposalTable.transition (table : ProposalTable) (transition : ProposalTransition) :
    ProposalTable where
  rows := table.rows.map transition.apply
  distinct := by simpa [Function.comp_def] using table.distinct
  named := by simpa using table.named

def proposalMatchesPortfolio (row : ProposalRecord) (portfolioId : Option String) : Bool :=
  portfolioId.all (row.portfolioId = ·)

def proposalMatchesState (row : ProposalRecord) (state : Option String) : Bool :=
  state.all (row.currentState.text = ·)

def proposalMatchesCreator (row : ProposalRecord) (createdBy : Option String) : Bool :=
  createdBy.all (row.createdBy = ·)

/-- The page that a repository returns, with the cursor of the next one. -/
abbrev ProposalPage := List ProposalRecord × Option String

namespace InMemoryListing

/-- `t >= u` -/
def notBefore (t u : DateTime) : Except ProposalError Bool :=
  match t.lt? u with
  | some before => .ok !before
  | none => .error incomparableTimestamps

def proposalCreatedOnOrAfter (row : ProposalRecord) :
    (createdFrom : Option DateTime) → Except ProposalError Bool
  | none => .ok true
  | some createdFrom => notBefore row.createdAt createdFrom

def proposalCreatedOnOrBefore (row : ProposalRecord) :
    (createdTo : Option DateTime) → Except ProposalError Bool
  | none => .ok true
  | some createdTo => notBefore createdTo row.createdAt

def proposalMatchesFilters (filters : ProposalFilters) (row : ProposalRecord) :
    Except ProposalError Bool := do
  let createdOnOrAfter ← proposalCreatedOnOrAfter row filters.createdFrom
  let createdOnOrBefore ← proposalCreatedOnOrBefore row filters.createdTo
  return proposalMatchesPortfolio row filters.portfolioId &&
    proposalMatchesState row filters.state && proposalMatchesCreator row filters.createdBy &&
    createdOnOrAfter && createdOnOrBefore

/-- `(row.created_at, row.proposal_id) < (other.created_at, other.proposal_id)` -/
def OlderThan (row other : ProposalRecord) : Prop :=
  row.createdAt.lt? other.createdAt = some true ∨
    (row.createdAt.lt? other.createdAt = some false ∧
      other.createdAt.lt? row.createdAt = some false ∧ row.proposalId < other.proposalId)

instance : DecidableRel OlderThan := fun _ _ => inferInstanceAs (Decidable (_ ∨ _))

def newestFirst (rows : List ProposalRecord) : List ProposalRecord :=
  rows.insertionSort fun row other => ¬ OlderThan row other

/-- `sorted(..., reverse=True)`, which compares all rows with each other in effect. -/
def sortedRows (rows : List ProposalRecord) : Except ProposalError (List ProposalRecord) := do
  require (∀ row ∈ rows, ∀ other ∈ rows, (row.createdAt.lt? other.createdAt).isSome)
    incomparableTimestamps
  return newestFirst rows

def proposalCursorIndex (rows : List ProposalRecord) (cursor : String) : Option ℕ :=
  rows.findIdx? (·.proposalId = cursor)

def applyProposalCursor (rows : List ProposalRecord) : Option String → List ProposalRecord
  | none => rows
  | some cursor =>
    if cursor = "" then rows
    else
      match proposalCursorIndex rows cursor with
      | none => rows
      | some index => rows.drop (index + 1)

def nextPageCursor (filtered page : List ProposalRecord) (limit : ℕ) : Option String :=
  if filtered.length ≤ limit then none else page.getLast?.map (·.proposalId)

def filteredProposalPage (rows : List ProposalRecord) (filters : ProposalFilters) (limit : ℕ)
    (cursor : Option String) : Except ProposalError ProposalPage := do
  let sorted ← sortedRows rows
  let matched ← filterOk (proposalMatchesFilters filters) sorted
  let filtered := applyProposalCursor matched cursor
  let page := filtered.take limit
  return (page, nextPageCursor filtered page limit)

end InMemoryListing

namespace PostgresListing

variable (collation : LinearOrder String)

/-- The filters as they stand in the `WHERE` clause, for the row and for the row of the cursor. -/
def matchesFilters (filters : ProposalFilters) (row : ProposalRecord) : Bool :=
  let _ := collation.toDecidableLE
  proposalMatchesPortfolio row filters.portfolioId && proposalMatchesState row filters.state &&
    proposalMatchesCreator row filters.createdBy &&
    filters.createdFrom.all (fun t => collation.le t.isoformat row.createdAt.isoformat) &&
    filters.createdTo.all fun t => collation.le row.createdAt.isoformat t.isoformat

def createdAtColumn (row : ProposalRecord) : String := row.createdAt.isoformat

def newestFirst (rows : List ProposalRecord) : List ProposalRecord :=
  orderByDesc collation createdAtColumn ProposalRecord.proposalId rows

/-- The row that the subquery of a cursor selects. -/
def cursorRow (rows : List ProposalRecord) (filters : ProposalFilters) (cursor : String) :
    Option ProposalRecord :=
  rows.find? fun row => row.proposalId = cursor && matchesFilters collation filters row

/-- A comparison with the empty result of a subquery does not hold. -/
def passesCursor (rows : List ProposalRecord) (filters : ProposalFilters)
    (row : ProposalRecord) : (cursor : Option String) → Bool
  | none => true
  | some cursor =>
    if cursor = "" then true
    else (cursorRow collation rows filters cursor).any fun cursorRecord =>
      RowBefore collation createdAtColumn ProposalRecord.proposalId row cursorRecord

def proposalListPage (rows : List ProposalRecord) (limit : ℕ) : ProposalPage :=
  let page := rows.take limit
  (page, if limit < rows.length then page.getLast?.map (·.proposalId) else none)

def listProposals (rows : List ProposalRecord) (filters : ProposalFilters) (limit : ℕ)
    (cursor : Option String) : Except ProposalError ProposalPage :=
  let selected := rows.filter fun row =>
    matchesFilters collation filters row && passesCursor collation rows filters row cursor
  .ok (proposalListPage ((newestFirst collation selected).take (limit + 1)) limit)

end PostgresListing

/-- A repository, as far as it lists proposals. -/
structure ProposalListing where
  matchesFilters : ProposalFilters → ProposalRecord → Except ProposalError Bool
  newestFirst : List ProposalRecord → List ProposalRecord
  listProposals : List ProposalRecord → ProposalFilters → (limit : ℕ) → (cursor : Option String) →
    Except ProposalError ProposalPage

def inMemoryListing : ProposalListing where
  matchesFilters := InMemoryListing.proposalMatchesFilters
  newestFirst := InMemoryListing.newestFirst
  listProposals := InMemoryListing.filteredProposalPage

def postgresListing (collation : LinearOrder String) : ProposalListing where
  matchesFilters filters row := .ok (PostgresListing.matchesFilters collation filters row)
  newestFirst := PostgresListing.newestFirst collation
  listProposals := PostgresListing.listProposals collation

namespace ProposalListing

variable (listing : ProposalListing) (filters : ProposalFilters)

def matching (row : ProposalRecord) : Bool :=
  (listing.matchesFilters filters row).toOption = some true

end ProposalListing

section Refinement

variable (listing : ProposalListing) (filters : ProposalFilters) (table : ProposalTable)

/-- The identifiers of all proposals in the order of the listing. -/
def ProposalTable.entries : List String :=
  (listing.newestFirst table.rows).map (·.proposalId)

/-- A stored proposal matches the filters. -/
def ProposalTable.matches (proposalId : String) : Bool :=
  table.rows.any fun row => row.proposalId = proposalId && listing.matching filters row

/-- The entries from which a page with a cursor is taken; `lost` are those that it is taken from
when the proposal of the cursor does not match. -/
def ProposalTable.rest (lost : List String → List String) : (cursor : Option String) → List String
  | none => table.entries listing
  | some cursor =>
    if table.matches listing filters cursor then after cursor (table.entries listing)
    else lost (table.entries listing)

/-- A repository lists the pages of the entries of its table. -/
structure ProposalListing.Refines (lost : List String → List String) : Prop where
  perm : ∀ rows, (listing.newestFirst rows).Perm rows
  transition : ∀ rows (transition : ProposalTransition),
    listing.newestFirst (rows.map transition.apply) =
      (listing.newestFirst rows).map transition.apply
  page : ∀ (table : ProposalTable) filters limit (cursor : Option String) page next,
    (∀ c ∈ cursor, c ≠ "") →
    listing.listProposals table.rows filters limit cursor = .ok (page, next) →
      page.map (·.proposalId) =
          ((table.rest listing filters lost cursor).filter (table.matches listing filters)).take
            limit ∧
        next = nextCursor
          ((table.rest listing filters lost cursor).filter (table.matches listing filters)) limit

variable {listing filters table} {rows : List ProposalRecord} {row : ProposalRecord}
  {cursor : String} {limit : ℕ}

theorem ProposalTable.matches_iff {proposalId : String} :
    table.matches listing filters proposalId ↔
      ∃ row ∈ table.rows, row.proposalId = proposalId ∧ listing.matching filters row := by
  simp [ProposalTable.matches]

theorem ProposalTable.matches_row (h : row ∈ table.rows) :
    table.matches listing filters row.proposalId = listing.matching filters row := by
  rw [Bool.eq_iff_iff, ProposalTable.matches_iff]
  constructor
  · rintro ⟨other, hother, heq, hmatch⟩
    rwa [← List.inj_on_of_nodup_map table.distinct hother h heq]
  · exact fun hmatch => ⟨row, h, rfl, hmatch⟩

/-- The identifiers of matching rows are the matching entries. -/
theorem ProposalTable.map_filter (listing : ProposalListing) (filters : ProposalFilters)
    (hrows : rows ⊆ table.rows) :
    (rows.filter (listing.matching filters)).map (·.proposalId) =
      (rows.map (·.proposalId)).filter (table.matches listing filters) := by
  rw [List.filter_map]
  refine congrArg _ (List.filter_congr fun row hrow => ?_)
  exact (ProposalTable.matches_row (hrows hrow)).symm

theorem ProposalListing.Refines.entries_perm {lost : List String → List String}
    (h : listing.Refines lost) :
    (table.entries listing).Perm (table.rows.map (·.proposalId)) :=
  (h.perm table.rows).map _

theorem ProposalListing.Refines.entries_transition {lost : List String → List String}
    (h : listing.Refines lost) (transition : ProposalTransition) :
    (table.transition transition).entries listing = table.entries listing := by
  unfold ProposalTable.entries ProposalTable.transition
  rw [h.transition, List.map_map]
  exact List.map_congr_left fun row _ => transition.apply_proposalId row

end Refinement

section InMemory

open InMemoryListing

theorem nextPageCursor_eq (filtered : List ProposalRecord) (limit : ℕ) :
    nextPageCursor filtered (filtered.take limit) limit =
      nextCursor (filtered.map (·.proposalId)) limit := by
  unfold nextPageCursor nextCursor
  rw [List.length_map, ← List.map_take, List.getLast?_map]

/-- The rows after the one of the cursor, or all of them when it is not there. -/
theorem applyProposalCursor_eq (rows : List ProposalRecord) {cursor : String} (h : cursor ≠ "") :
    (applyProposalCursor rows (some cursor)).map (·.proposalId) =
      if cursor ∈ rows.map (·.proposalId) then after cursor (rows.map (·.proposalId))
      else rows.map (·.proposalId) := by
  simp only [applyProposalCursor, if_neg h, proposalCursorIndex]
  rcases hindex : rows.findIdx? (·.proposalId = cursor) with _ | index
  · rw [hindex, if_neg]
    rw [List.findIdx?_eq_none_iff] at hindex
    intro hin
    obtain ⟨row, hrow, hid⟩ := List.mem_map.mp hin
    simpa [hid] using hindex row hrow
  · obtain ⟨hlt, hid, hbefore⟩ := List.findIdx?_eq_some_iff_getElem.mp hindex
    have hsplit : rows.map (·.proposalId) = (rows.take index).map (·.proposalId) ++
        cursor :: (rows.drop (index + 1)).map (·.proposalId) := by
      conv_lhs => rw [← List.take_append_drop index rows, List.drop_eq_getElem_cons hlt]
      rw [List.map_append, List.map_cons, of_decide_eq_true hid]
    have hfresh : cursor ∉ (rows.take index).map (·.proposalId) := by
      intro hin
      obtain ⟨row, hrow, heq⟩ := List.mem_map.mp hin
      obtain ⟨i, hi, hget⟩ := List.mem_take_iff_getElem.mp hrow
      have := hbefore i (by omega)
      rw [hget] at this
      simp [heq] at this
    rw [hindex, hsplit, if_pos (List.mem_append_right _ List.mem_cons_self), after_append hfresh]

theorem newestFirst_perm {rows : List ProposalRecord} : (newestFirst rows).Perm rows :=
  List.perm_insertionSort _ rows

theorem inMemoryListing_refines : inMemoryListing.Refines id where
  perm rows := newestFirst_perm
  transition rows transition := by
    refine (List.map_insertionSort _ _ _ rows fun a _ b _ => ?_).symm
    simp only [OlderThan, transition.apply_createdAt, transition.apply_proposalId]
  page table filters limit cursor page next hcursor h := by
    obtain ⟨sorted, hsort, hrest⟩ := bind_eq_ok.mp h
    obtain ⟨_, _, hsorted⟩ := bind_eq_ok.mp hsort
    obtain ⟨matched, hmatched, hpage⟩ := bind_eq_ok.mp hrest
    obtain rfl := Except.ok.inj hsorted
    obtain ⟨rfl, rfl⟩ := Prod.mk.inj (Except.ok.inj hpage)
    have hids : matched.map (·.proposalId) =
        (table.entries inMemoryListing).filter (table.matches inMemoryListing filters) := by
      rw [filterOk_eq_ok hmatched]
      have hsubset : newestFirst table.rows ⊆ table.rows := newestFirst_perm.subset
      exact ProposalTable.map_filter inMemoryListing filters hsubset
    have hrest : (applyProposalCursor matched cursor).map (·.proposalId) =
        (table.rest inMemoryListing filters id cursor).filter
          (table.matches inMemoryListing filters) := by
      rcases cursor with _ | cursor
      · exact hids
      · rw [applyProposalCursor_eq matched (hcursor cursor rfl), hids, ProposalTable.rest]
        by_cases hmatch : table.matches inMemoryListing filters cursor
        · have hentry : cursor ∈ table.entries inMemoryListing := by
            obtain ⟨row, hrow, hid, _⟩ := ProposalTable.matches_iff.mp hmatch
            exact List.mem_map.mpr ⟨row, newestFirst_perm.mem_iff.mpr hrow, hid⟩
          rw [if_pos hmatch, if_pos (List.mem_filter.mpr ⟨hentry, hmatch⟩), after_filter hmatch]
        · rw [if_neg hmatch, if_neg fun hin => hmatch (List.mem_filter.mp hin).2]
          rfl
    rw [nextPageCursor_eq, hrest, List.map_take, hrest]
    exact ⟨rfl, rfl⟩

end InMemory

section Postgres

open PostgresListing

variable (collation : LinearOrder String)

theorem proposalListPage_eq (rows : List ProposalRecord) (limit : ℕ) :
    proposalListPage (rows.take (limit + 1)) limit =
      (rows.take limit, (nextCursor (rows.map (·.proposalId)) limit)) := by
  simp only [proposalListPage, nextCursor, List.take_take, Nat.min_eq_left (Nat.le_succ limit),
    List.length_take, List.length_map, ← List.map_take, List.getLast?_map]
  by_cases h : rows.length ≤ limit
  · rw [if_pos h, if_neg (by omega)]
  · rw [if_neg h, if_pos (by omega)]

theorem postgresListing_matching (filters : ProposalFilters) :
    (postgresListing collation).matching filters = matchesFilters collation filters := by
  ext row
  cases h : matchesFilters collation filters row <;>
    simp [ProposalListing.matching, postgresListing, h, Except.toOption]

/-- With a cursor whose proposal matches, the rows below its row pass; else no row does. -/
theorem passesCursor_eq (table : ProposalTable) (filters : ProposalFilters) {cursor : String}
    (h : cursor ≠ "") :
    if table.matches (postgresListing collation) filters cursor then
      ∃ cursorRecord ∈ table.rows, cursorRecord.proposalId = cursor ∧
        ∀ row, passesCursor collation table.rows filters row (some cursor) =
          decide (RowBefore collation createdAtColumn ProposalRecord.proposalId row cursorRecord)
    else ∀ row, passesCursor collation table.rows filters row (some cursor) = false := by
  simp only [passesCursor, if_neg h]
  rcases hcursor : cursorRow collation table.rows filters cursor with _ | cursorRecord
  · rw [cursorRow, List.find?_eq_none] at hcursor
    rw [if_neg]
    · exact fun _ => rfl
    · rw [ProposalTable.matches_iff, postgresListing_matching]
      rintro ⟨row, hrow, hid, hmatch⟩
      simpa [hid, hmatch] using hcursor row hrow
  · have hstored := List.mem_of_find?_eq_some hcursor
    have hfound := List.find?_some hcursor
    rw [Bool.and_eq_true, decide_eq_true_eq] at hfound
    rw [if_pos]
    · exact ⟨cursorRecord, hstored, hfound.1, fun _ => by simp⟩
    · rw [ProposalTable.matches_iff, postgresListing_matching]
      exact ⟨cursorRecord, hstored, hfound⟩

theorem postgresListing_refines : (postgresListing collation).Refines fun _ => [] where
  perm rows := orderByDesc_perm
  transition rows transition := by
    refine orderByDesc_map (fun row => ?_) transition.apply_proposalId
    rw [createdAtColumn, transition.apply_createdAt, createdAtColumn]
  page table filters limit cursor page next hcursor h := by
    have hpage : proposalListPage ((newestFirst collation (table.rows.filter fun row =>
        matchesFilters collation filters row &&
          passesCursor collation table.rows filters row cursor)).take (limit + 1)) limit =
        (page, next) := Except.ok.inj h
    rw [proposalListPage_eq, newestFirst, orderByDesc_filter table.distinct] at hpage
    obtain ⟨rfl, rfl⟩ := Prod.mk.inj hpage
    rw [List.map_take]
    suffices hrest : ((newestFirst collation table.rows).filter fun row =>
          matchesFilters collation filters row &&
            passesCursor collation table.rows filters row cursor).map (·.proposalId) =
        (table.rest (postgresListing collation) filters (fun _ => []) cursor).filter
          (table.matches (postgresListing collation) filters) by
      rw [← hrest]
      exact ⟨rfl, rfl⟩
    have hsubset : newestFirst collation table.rows ⊆ table.rows := orderByDesc_perm.subset
    rcases cursor with _ | cursor
    · simp only [passesCursor, Bool.and_true]
      rw [← postgresListing_matching]
      exact ProposalTable.map_filter _ _ hsubset
    · have hpasses := passesCursor_eq collation table filters (hcursor cursor rfl)
      rw [ProposalTable.rest]
      split at hpasses
      · next hmatch =>
        obtain ⟨cursorRecord, hrecord, rfl, hpasses⟩ := hpasses
        have hdesc : (newestFirst collation table.rows).Pairwise fun a b =>
            decide (RowBefore collation createdAtColumn ProposalRecord.proposalId b a) :=
          (pairwise_orderByDesc table.distinct).imp decide_eq_true
        have hentries := after_eq_filter hdesc
          (fun a b hab hba => (of_decide_eq_true hab).asymm (of_decide_eq_true hba))
          ((orderByDesc_perm.map _).nodup_iff.mpr table.distinct)
          (orderByDesc_perm.mem_iff.mpr hrecord)
        rw [if_pos hmatch, ProposalTable.entries]
        simp only [hpasses]
        rw [← List.filter_filter, ← postgresListing_matching,
          ProposalTable.map_filter _ _ (List.Subset.trans (List.filter_subset_self _) hsubset)]
        exact congrArg _ hentries.symm
      · next hmatch =>
        simp only [hpasses, Bool.and_false, List.filter_false]
        rw [if_neg hmatch]
        rfl

end Postgres

end LotusAdvise.Proposals

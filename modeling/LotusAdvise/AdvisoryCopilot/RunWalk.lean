import LotusAdvise.AdvisoryCopilot.AdapterAgreement
import LotusAdvise.AdvisoryCopilot.RunListings

/-! # Walks over the listed runs

A client follows the cursors of the listing while runs are saved, refreshed and reviewed. A run is
steady when it has matched the filters in every state since the first page was asked for. Each
steady run is returned once, and all runs come in descending order.
-/

namespace LotusAdvise.AdvisoryCopilot

open KeysetWalk Pagination Runs Tables

def reviewPostureForAction : CopilotReviewAction → CopilotReviewPosture
  | .approveForInternalUse => .approvedForInternalUse
  | .reject => .rejected
  | .supersede => .superseded
  | .expire => .expired

def runWithReviewPosture (run : AdvisoryCopilotRunRecord) (action : CopilotReviewAction)
    (occurredAt : DateTime) : AdvisoryCopilotRunRecord :=
  { run with reviewPosture := reviewPostureForAction action, updatedAt := occurredAt }

/-- A call under way. Of a review, the run that it has read: the later steps of a review change no
run, but for the last one that puts this run back with its new posture. -/
inductive CopilotThread where
  | persisting (phase : PersistPhase)
  | reviewing (run : AdvisoryCopilotRunRecord)

inductive CopilotLabel where
  | listRuns
  | persist (call : CopilotRunCall)
  | advance (index : ℕ)
  | readForReview (runId : String)
  | review (index : ℕ) (action : CopilotReviewAction) (occurredAt : DateTime)

structure CopilotWalk (S : Type) where
  store : S
  threads : List CopilotThread := []
  progress : Progress String := .next none
  returned : List AdvisoryCopilotRunRecord := []
  /-- The identifiers of the steady runs. -/
  steady : List String := []

namespace CopilotWalk

section Definitions

variable {S : Type} (listing : CopilotRunListing S) (services : CopilotServices)
  (filters : CopilotRunFilters) (limit : ℕ)

def selectedIds (store : S) : List String :=
  ((listing.rows store).filter (listing.selects filters)).map AdvisoryCopilotRunRecord.runId

/-- The walk after a step of a thread. -/
def stored (walk : CopilotWalk S) (store : S) (threads : List CopilotThread) : CopilotWalk S :=
  { walk with
    store
    threads
    steady := walk.steady.filter fun runId => runId ∈ selectedIds listing filters store }

/-- The steady runs once a page has been asked for. -/
def asked (walk : CopilotWalk S) : Option String → List String
  | none => selectedIds listing filters walk.store
  | some _ => walk.steady

def step (walk : CopilotWalk S) : CopilotLabel → Option (CopilotWalk S)
  | .listRuns =>
    match walk.progress with
    | .finished => none
    | .next cursor =>
      (listing.list walk.store filters limit cursor).toOption.map fun (page, next) =>
        { walk with
          progress := .ofCursor next
          returned := walk.returned ++ page
          steady := walk.asked listing filters cursor }
  | .persist call =>
    some { walk with
      threads := walk.threads ++ [.persisting (PersistPhase.start services call)] }
  | .advance index =>
    match walk.threads[index]? with
    | some (.persisting phase) =>
      let advanced := PersistPhase.advance listing.repository services walk.store phase
      some (walk.stored listing filters advanced.1
        (walk.threads.set index (.persisting advanced.2)))
    | _ => none
  | .readForReview runId =>
    (listing.repository.getRun walk.store runId).map fun run =>
      { walk with threads := walk.threads ++ [.reviewing run] }
  | .review index action occurredAt =>
    match walk.threads[index]? with
    | some (.reviewing run) =>
      let updated := listing.repository.updateRun walk.store
        (runWithReviewPosture run action occurredAt)
      some (walk.stored listing filters (updated.toOption.getD walk.store)
        (walk.threads.eraseIdx index))
    | _ => none

/-- What the walk owes its client: no steady run twice, each of them once in the end, all runs in
descending order, and an answer to every call. -/
structure Complete (walk : CopilotWalk S) : Prop where
  once : ∀ runId ∈ walk.steady,
    (walk.returned.map AdvisoryCopilotRunRecord.runId).count runId ≤ 1 ∧
      (walk.progress = .finished →
        (walk.returned.map AdvisoryCopilotRunRecord.runId).count runId = 1)
  descending : walk.returned.Pairwise fun a b => runKey b < runKey a
  answered : ∀ cursor, walk.progress = .next cursor →
    (listing.list walk.store filters limit cursor).toOption.isSome

end Definitions

end CopilotWalk

section Walks

/-- What a call saves can be listed. -/
def CopilotLabel.SavesListable (services : CopilotServices) : CopilotLabel → Prop
  | .persist call => ∀ run, buildRunRecord services call = .ok run → Listable run
  | _ => True

instance (run : AdvisoryCopilotRunRecord) : Decidable (Listable run) :=
  decidable_of_iff (run.createdAt.utcOffset = some 0 ∧ Text.strip run.runId = run.runId ∧
    run.runId ≠ "") ⟨fun h => ⟨h.1, h.2.1, h.2.2⟩, fun h => ⟨h.utc, h.trimmed, h.nonblank⟩⟩

instance (services : CopilotServices) : ∀ label : CopilotLabel,
    Decidable (label.SavesListable services)
  | .persist call => decidable_of_iff
      (∀ run ∈ (buildRunRecord services call).toOption, Listable run)
      (forall_congr' fun _ => imp_congr_left toOption_eq_some)
  | .listRuns | .advance _ | .readForReview _ | .review .. => isTrue trivial

/-- The run that a call has in hand is stored, or can be listed once it is. -/
def CopilotThread.Sound (services : CopilotServices) (rows : List AdvisoryCopilotRunRecord) :
    CopilotThread → Prop
  | .persisting (.lookingUp _ call) => ∀ run, buildRunRecord services call = .ok run → Listable run
  | .persisting (.loading call _) => ∀ run, buildRunRecord services call = .ok run → Listable run
  | .persisting (.refreshing _ refreshed) => Stored rows refreshed
  | .persisting (.saving run _) => Listable run
  | .persisting (.finished _) => True
  | .reviewing run => Stored rows run

/-- The progress of the walk in keys, and in texts of cursors. -/
def ProgressAt : Progress (ℤ ×ₗ String) → Progress String → Prop
  | .next key, .next text => CursorAt key text
  | .finished, .finished => True
  | _, _ => False

theorem progressAt_ofCursor {key : Option (ℤ ×ₗ String)} {text : Option String}
    (h : CursorAt key text) : ProgressAt (.ofCursor key) (.ofCursor text) := by
  obtain ⟨last, hlast, rfl, rfl⟩ := h
  cases last with
  | none => trivial
  | some run => exact ⟨some run, hlast, rfl, rfl⟩

variable {S : Type} {listing : CopilotRunListing S} {services : CopilotServices}
  {filters : CopilotRunFilters} {limit : ℕ} {rows rows' : List AdvisoryCopilotRunRecord}

/-- The keys of the steady runs. -/
def steadyKeys (selects : AdvisoryCopilotRunRecord → Bool) (rows : List AdvisoryCopilotRunRecord)
    (steady : List String) : List (ℤ ×ₗ String) :=
  ((rows.filter selects).filter fun run => run.runId ∈ steady).map runKey

namespace CopilotWalk

/-- The walk is on its track, and all runs that it or a call has in hand are stored. -/
structure Inv (listing : CopilotRunListing S) (services : CopilotServices)
    (filters : CopilotRunFilters) (walk : CopilotWalk S) : Prop where
  rows : ListableRows (listing.rows walk.store)
  threads : ∀ thread ∈ walk.threads, thread.Sound services (listing.rows walk.store)
  returned : ∀ run ∈ walk.returned, Stored (listing.rows walk.store) run
  steady : ∀ runId ∈ walk.steady, runId ∈ selectedIds listing filters walk.store
  track : ∃ progress, ProgressAt progress walk.progress ∧
    OnTrack (steadyKeys (listing.selects filters) (listing.rows walk.store) walk.steady)
      (walk.returned.map runKey) progress

end CopilotWalk

section Threads

theorem CopilotThread.Sound.kept {thread : CopilotThread} (h : thread.Sound services rows)
    (hkept : KeysKept rows rows') : thread.Sound services rows' := by
  cases thread with
  | reviewing run => exact hkept run h
  | persisting phase =>
    cases phase with
    | refreshing existing refreshed => exact hkept refreshed h
    | _ => exact h

theorem sound_withoutExistingRun {call : CopilotRunCall}
    (h : ∀ run, buildRunRecord services call = .ok run → Listable run) :
    (CopilotThread.persisting (PersistPhase.withoutExistingRun services call)).Sound services
      rows := by
  unfold PersistPhase.withoutExistingRun
  split
  · trivial
  · trivial
  · next hrun _ => exact h _ hrun

theorem sound_start {call : CopilotRunCall}
    (h : ∀ run, buildRunRecord services call = .ok run → Listable run) :
    (CopilotThread.persisting (PersistPhase.start services call)).Sound services rows := by
  unfold PersistPhase.start
  split
  · trivial
  · split
    · exact sound_withoutExistingRun h
    · exact h

/-- A refreshed run keeps the identifier and the time of the run in its place. -/
theorem sound_handleExistingRun {call : CopilotRunCall} {existing : AdvisoryCopilotRunRecord}
    (h : existing ∈ rows) :
    (CopilotThread.persisting
      (PersistPhase.handleExistingRun services call existing)).Sound services rows := by
  unfold PersistPhase.handleExistingRun
  split
  · trivial
  · split
    · exact ⟨existing, h, rfl, rfl⟩
    · trivial

theorem KeysKept.refl : KeysKept rows rows := fun _ h => h

/-- A step of a call that persists a run. -/
theorem sound_advance (hlisting : listing.ListsByKey) {s : S}
    (hrows : ListableRows (listing.rows s)) {phase : PersistPhase}
    (h : (CopilotThread.persisting phase).Sound services (listing.rows s)) :
    ListableRows (listing.rows (phase.advance listing.repository services s).1) ∧
      KeysKept (listing.rows s) (listing.rows (phase.advance listing.repository services s).1) ∧
      (CopilotThread.persisting (phase.advance listing.repository services s).2).Sound services
        (listing.rows (phase.advance listing.repository services s).1) := by
  cases phase with
  | lookingUp key call =>
    rw [PersistPhase.advance]
    split
    · exact ⟨hrows, KeysKept.refl, sound_withoutExistingRun h⟩
    · split
      · exact ⟨hrows, KeysKept.refl, trivial⟩
      · exact ⟨hrows, KeysKept.refl, h⟩
  | loading call existing =>
    rw [PersistPhase.advance]
    split
    · exact ⟨hrows, KeysKept.refl, trivial⟩
    · next run hrun =>
      exact ⟨hrows, KeysKept.refl, sound_handleExistingRun (hlisting.getRun _ _ run hrun)⟩
  | refreshing existing refreshed =>
    rw [PersistPhase.advance]
    split
    · exact ⟨hrows, KeysKept.refl, trivial⟩
    · next s' hs' =>
      rcases hlisting.update s refreshed s' hs' with heq | heq
      · dsimp only
        rw [heq]
        exact ⟨hrows, KeysKept.refl, trivial⟩
      · obtain ⟨hrows', hkept⟩ := listableRows_replace hrows h
        rw [← heq] at hrows' hkept
        exact ⟨hrows', hkept, trivial⟩
  | saving run idempotency =>
    rw [PersistPhase.advance]
    split
    · exact ⟨hrows, KeysKept.refl, trivial⟩
    · next s' saved hs' =>
      rcases hlisting.save s run idempotency s' saved hs' with heq | ⟨hnew, heq⟩
      · dsimp only
        rw [heq]
        exact ⟨hrows, KeysKept.refl, trivial⟩
      · obtain ⟨hrows', hkept⟩ := listableRows_concat hrows h hnew
        rw [← heq] at hrows' hkept
        exact ⟨hrows', hkept, trivial⟩
  | finished answer => exact ⟨hrows, KeysKept.refl, trivial⟩

/-- A review puts the run that it has read back with its new posture. -/
theorem keysKept_review (hlisting : listing.ListsByKey) {s : S}
    (hrows : ListableRows (listing.rows s)) {run : AdvisoryCopilotRunRecord}
    (h : Stored (listing.rows s) run) (action : CopilotReviewAction) (occurredAt : DateTime) :
    let s' := (listing.repository.updateRun s
      (runWithReviewPosture run action occurredAt)).toOption.getD s
    ListableRows (listing.rows s') ∧ KeysKept (listing.rows s) (listing.rows s') := by
  intro s'
  cases hupdate : listing.repository.updateRun s (runWithReviewPosture run action occurredAt) with
  | error error =>
    have hs' : s' = s := by simp only [s', hupdate, Except.toOption, Option.getD_none]
    rw [hs']
    exact ⟨hrows, KeysKept.refl⟩
  | ok updated =>
    have hs' : s' = updated := by simp only [s', hupdate, Except.toOption, Option.getD_some]
    rw [hs']
    have hstored : Stored (listing.rows s) (runWithReviewPosture run action occurredAt) := h
    rcases hlisting.update s _ updated hupdate with heq | heq
    · rw [heq]
      exact ⟨hrows, KeysKept.refl⟩
    · rw [heq]
      exact listableRows_replace hrows hstored

end Threads

namespace CopilotWalk

section Invariant

variable {walk walk' : CopilotWalk S}

theorem mem_selectedIds {s : S} {runId : String} : runId ∈ selectedIds listing filters s ↔
    ∃ run ∈ listing.rows s, listing.selects filters run = true ∧ run.runId = runId := by
  simp only [selectedIds, List.mem_map, List.mem_filter, and_assoc]

theorem mem_steadyKeys {selects : AdvisoryCopilotRunRecord → Bool} {steady : List String}
    {key : ℤ ×ₗ String} : key ∈ steadyKeys selects rows steady ↔
      ∃ run ∈ rows, selects run = true ∧ run.runId ∈ steady ∧ runKey run = key := by
  simp only [steadyKeys, List.mem_map, List.mem_filter, decide_eq_true_eq, and_assoc]

/-- Changes of the stored runs leave at most fewer steady keys. -/
theorem steadyKeys_stored (h : Inv listing services filters walk) {s : S}
    (hrows : ListableRows (listing.rows s))
    (hkept : KeysKept (listing.rows walk.store) (listing.rows s)) :
    steadyKeys (listing.selects filters) (listing.rows s)
        (walk.steady.filter fun runId => runId ∈ selectedIds listing filters s) ⊆
      steadyKeys (listing.selects filters) (listing.rows walk.store) walk.steady := by
  intro key hkey
  obtain ⟨run', hrun', -, hsteady, rfl⟩ := mem_steadyKeys.mp hkey
  have hid := List.mem_of_mem_filter hsteady
  obtain ⟨run, hrun, hselects, hrunId⟩ := mem_selectedIds.mp (h.steady _ hid)
  obtain ⟨stored, hstored, hstoredId, hcreatedAt⟩ := hkept run (stored_of_mem hrun)
  obtain rfl := hrows.eq_of_runId hstored hrun' (hstoredId.trans hrunId)
  exact mem_steadyKeys.mpr ⟨run, hrun, hselects, hrunId ▸ hid,
    runKey_eq_of_stored hrunId hcreatedAt.symm⟩

/-- A step that changes the stored runs. -/
theorem inv_stored (h : Inv listing services filters walk) {s : S}
    (hrows : ListableRows (listing.rows s))
    (hkept : KeysKept (listing.rows walk.store) (listing.rows s)) {threads : List CopilotThread}
    (hthreads : ∀ thread ∈ threads, thread.Sound services (listing.rows s)) :
    Inv listing services filters (walk.stored listing filters s threads) where
  rows := hrows
  threads := hthreads
  returned run hrun := hkept run (h.returned run hrun)
  steady _ hrunId := of_decide_eq_true (List.mem_filter.mp hrunId).2
  track := by
    obtain ⟨progress, hprogress, htrack⟩ := h.track
    exact ⟨progress, hprogress, htrack.subset (steadyKeys_stored h hrows hkept)⟩

theorem inv_threads (h : Inv listing services filters walk) {thread : CopilotThread}
    (hthread : thread.Sound services (listing.rows walk.store)) :
    Inv listing services filters { walk with threads := walk.threads ++ [thread] } where
  rows := h.rows
  threads other hother := by
    rcases List.mem_append.mp hother with hother | hother
    · exact h.threads other hother
    · rwa [List.mem_singleton.mp hother]
  returned := h.returned
  steady := h.steady
  track := h.track

/-- A page is returned. -/
theorem inv_listRuns (hlisting : listing.ListsByKey) (hlimit : 0 < limit)
    (h : Inv listing services filters walk)
    (hstep : walk.step listing services filters limit .listRuns = some walk') :
    Inv listing services filters walk' := by
  unfold step at hstep
  dsimp only at hstep
  split at hstep
  · cases hstep
  · next text htext =>
    obtain ⟨progress, hprogress, htrack⟩ := h.track
    rw [htext] at hprogress
    obtain ⟨key, rfl⟩ : ∃ key, progress = .next key := by
      cases progress with
      | next key => exact ⟨key, rfl⟩
      | finished => exact hprogress.elim
    obtain ⟨page, nextText, next, hpage, hkeys, hnext, hsubset⟩ :=
      hlisting.list walk.store filters limit key text hlimit h.rows hprogress
    rw [hpage] at hstep
    obtain rfl := Option.some_injective _ hstep
    have hsteady : ∀ runId ∈ walk.asked listing filters text,
        runId ∈ selectedIds listing filters walk.store := by
      cases text with
      | none => exact fun _ hrunId => hrunId
      | some text => exact h.steady
    have hasked : OnTrack (steadyKeys (listing.selects filters) (listing.rows walk.store)
        (walk.asked listing filters text)) (walk.returned.map runKey) (.next key) := by
      cases text with
      | some text => exact htrack
      | none =>
        -- before the first page nothing has been returned
        obtain ⟨_ | run, -, rfl, hlast⟩ := hprogress
        · rw [show walk.returned.map runKey = [] from htrack.returned]
          exact onTrack_start _
        · cases hlast
    refine ⟨h.rows, h.threads, fun run hrun => ?_, hsteady, .ofCursor next,
      progressAt_ofCursor hnext, ?_⟩
    · rcases List.mem_append.mp hrun with hrun | hrun
      · exact h.returned run hrun
      · exact stored_of_mem (hsubset hrun)
    · rw [List.map_append]
      refine hasked.append hkeys fun k hk => ?_
      obtain ⟨run, hrun, hselects, -, rfl⟩ := mem_steadyKeys.mp hk
      exact List.mem_map_of_mem (List.mem_filter.mpr ⟨hrun, hselects⟩)

/-- Every step keeps the invariant. -/
theorem inv_step (hlisting : listing.ListsByKey) (hlimit : 0 < limit) {label : CopilotLabel}
    (h : Inv listing services filters walk) (hlabel : label.SavesListable services)
    (hstep : walk.step listing services filters limit label = some walk') :
    Inv listing services filters walk' := by
  cases label with
  | listRuns => exact inv_listRuns hlisting hlimit h hstep
  | persist call =>
    obtain rfl := Option.some_injective _ hstep
    exact inv_threads h (sound_start hlabel)
  | readForReview runId =>
    obtain ⟨run, hrun, rfl⟩ := Option.map_eq_some_iff.mp hstep
    exact inv_threads h (stored_of_mem (hlisting.getRun _ _ run hrun))
  | advance index =>
    unfold step at hstep
    dsimp only at hstep
    split at hstep
    · next phase hphase =>
      obtain rfl := Option.some_injective _ hstep
      obtain ⟨hrows, hkept, hsound⟩ := sound_advance hlisting h.rows
        (h.threads _ (List.mem_of_getElem? hphase))
      refine inv_stored h hrows hkept fun thread hthread => ?_
      rcases List.mem_or_eq_of_mem_set hthread with hthread | rfl
      · exact (h.threads thread hthread).kept hkept
      · exact hsound
    · cases hstep
  | review index action occurredAt =>
    unfold step at hstep
    dsimp only at hstep
    split at hstep
    · next run hrun =>
      obtain rfl := Option.some_injective _ hstep
      obtain ⟨hrows, hkept⟩ := keysKept_review hlisting h.rows
        (h.threads _ (List.mem_of_getElem? hrun)) action occurredAt
      exact inv_stored h hrows hkept fun thread hthread =>
        (h.threads thread (List.mem_of_mem_eraseIdx hthread)).kept hkept
    · cases hstep

theorem inv_start {s : S} (h : ListableRows (listing.rows s)) :
    Inv listing services filters { store := s } where
  rows := h
  threads _ hthread := nomatch hthread
  returned _ hrun := nomatch hrun
  steady _ hrunId := nomatch hrunId
  track := ⟨.next none, ⟨none, fun _ hlast => (nomatch hlast), rfl, rfl⟩, onTrack_start _⟩

/-- Stored runs are counted alike by their identifiers and by their keys. -/
theorem count_runId (hrows : ListableRows rows) {returned : List AdvisoryCopilotRunRecord}
    (hreturned : ∀ run ∈ returned, Stored rows run) {run : AdvisoryCopilotRunRecord}
    (hrun : run ∈ rows) :
    (returned.map AdvisoryCopilotRunRecord.runId).count run.runId =
      (returned.map runKey).count (runKey run) := by
  rw [List.count, List.count, List.countP_map, List.countP_map]
  refine List.countP_congr fun other hother => ?_
  obtain ⟨stored, hstored, hid, hcreatedAt⟩ := hreturned other hother
  have hlistable := listable_of_stored hrows ⟨stored, hstored, hid, hcreatedAt⟩
  simp only [Function.comp_apply, beq_iff_eq]
  rw [runKey_inj hlistable (hrows.listable run hrun)]
  refine ⟨fun heq => ⟨heq, ?_⟩, And.left⟩
  rw [← hcreatedAt, hrows.eq_of_runId hstored hrun (hid.trans heq)]

theorem complete_of_inv (hlisting : listing.ListsByKey) (hlimit : 0 < limit)
    (h : Inv listing services filters walk) : walk.Complete listing filters limit where
  once runId hrunId := by
    obtain ⟨run, hrun, hselects, rfl⟩ := mem_selectedIds.mp (h.steady runId hrunId)
    obtain ⟨progress, hprogress, htrack⟩ := h.track
    have hkey := mem_steadyKeys.mpr ⟨run, hrun, hselects, hrunId, rfl⟩
    rw [count_runId h.rows h.returned hrun]
    refine ⟨(htrack.count hkey).1, fun hfinished => (htrack.count hkey).2 ?_⟩
    rw [hfinished] at hprogress
    cases progress with
    | next key => exact hprogress.elim
    | finished => rfl
  descending := by
    obtain ⟨progress, -, htrack⟩ := h.track
    exact List.pairwise_map.mp htrack.descending
  answered text htext := by
    obtain ⟨progress, hprogress, -⟩ := h.track
    rw [htext] at hprogress
    cases progress with
    | finished => exact hprogress.elim
    | next key =>
      obtain ⟨page, nextText, -, hpage, -⟩ :=
        hlisting.list walk.store filters limit key text hlimit h.rows hprogress
      rw [hpage]
      rfl

/-- Walks are complete in every adapter that lists by key. -/
theorem everyState_complete (hlisting : listing.ListsByKey) (hlimit : 0 < limit) {s : S}
    (hrows : ListableRows (listing.rows s)) {labels : List CopilotLabel}
    (hlabels : ∀ label ∈ labels, label.SavesListable services) :
    EveryState (step listing services filters limit) (Complete listing filters limit)
      { store := s } labels := by
  refine everyState_iff_prefixes.mpr fun pre hpre walk hwalk => ?_
  have hsaves : EveryStep (step listing services filters limit)
      (fun _ label _ => label.SavesListable services) { store := s } pre :=
    everyStep_of_labels fun label hlabel _ _ => hlabels label (hpre.subset hlabel)
  have keep : ∀ walk label walk', Inv listing services filters walk →
      step listing services filters limit walk label = some walk' →
      label.SavesListable services → Inv listing services filters walk' :=
    fun _ _ _ h hstep hlabel => inv_step hlisting hlimit h hlabel hstep
  exact complete_of_inv hlisting hlimit
    (invariant_of_everyStep keep (inv_start hrows) hsaves hwalk)

end Invariant

end CopilotWalk

end Walks

section Completeness

variable (cursors : CursorReaders) (lineages : LineageReaders) (services : CopilotServices)
  (filters : CopilotRunFilters)

/-- Decoding undoes encoding, and walks are complete in memory and in the database. -/
theorem copilot_run_walks_complete (limit : ℕ) (hlimit : 0 < limit) (labels : List CopilotLabel)
    (hlabels : ∀ label ∈ labels, label.SavesListable services) :
    (∀ run, Listable run → decodeCopilotRunCursor cursors (some (encodeCopilotRunCursor run)) =
      .ok (some { createdAt := run.createdAt, runId := run.runId })) ∧
    (∀ repository : InMemoryCopilotRepository, ListableRows repository.runs →
      EveryState (CopilotWalk.step (inMemoryListing cursors lineages) services filters limit)
        (CopilotWalk.Complete (inMemoryListing cursors lineages) filters limit)
        { store := repository } labels) ∧
    ∀ tables : PostgresCopilotTables, ListableRows tables.runs →
      EveryState (CopilotWalk.step (postgresListing cursors lineages) services filters limit)
        (CopilotWalk.Complete (postgresListing cursors lineages) filters limit)
        { store := tables } labels :=
  ⟨fun _ h => decodeCopilotRunCursor_encode h,
    fun _ hrows => CopilotWalk.everyState_complete (inMemoryListing_listsByKey cursors lineages)
      hlimit hrows hlabels,
    fun _ hrows => CopilotWalk.everyState_complete (postgresListing_listsByKey cursors lineages)
      hlimit hrows hlabels⟩

end Completeness

namespace Sample

def cursorReaders : CursorReaders where
  utf8 _ := none
  loads _ := none
  fromisoformat _ := none

def lineageReaders : LineageReaders where
  floatEquals _ _ := false
  jsonbText _ := ""

def wholeProposal : CopilotRunFilters where
  proposalId := "pp_1"
  proposalVersionId := none
  proposalVersionNo := none

/-- Two runs are saved. Between their pages one is refreshed, and the other one is reviewed. -/
def twoRunWalk : List CopilotLabel := [
  .persist (askBy "advisor_1" "key-1" "UNAVAILABLE" 0), .advance 0, .advance 0,
  .persist (askBy "advisor_2" "key-2" "REVIEW_REQUIRED" 1), .advance 1, .advance 1, .listRuns,
  .persist (askBy "advisor_1" "key-1" "REVIEW_REQUIRED" 2), .advance 2, .advance 2, .advance 2,
  .readForReview "copilot_run_sha256:2",
  .review 3 .approveForInternalUse (Proposals.Sample.clock 3), .listRuns]

end Sample

open Sample in
/-- The theorem at a walk that ends with both runs. -/
theorem copilot_run_walks_complete_two :
    EveryState (CopilotWalk.step (postgresListing cursorReaders lineageReaders) copilotServices
        wholeProposal 1)
      (CopilotWalk.Complete (postgresListing cursorReaders lineageReaders) wholeProposal 1)
      { store := {} } twoRunWalk ∧
    (run (CopilotWalk.step (postgresListing cursorReaders lineageReaders) copilotServices
        wholeProposal 1) { store := {} } twoRunWalk).map
      (fun walk => (walk.steady, walk.progress)) =
        some (["copilot_run_sha256:1", "copilot_run_sha256:2"], .finished) :=
  ⟨(copilot_run_walks_complete cursorReaders lineageReaders copilotServices wholeProposal 1
    (by decide) twoRunWalk (by decide +kernel)).2.2 {} ⟨List.nodup_nil, fun _ hrun => nomatch hrun⟩,
    by decide +kernel⟩

end LotusAdvise.AdvisoryCopilot

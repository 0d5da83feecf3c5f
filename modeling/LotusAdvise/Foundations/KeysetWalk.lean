import LotusAdvise.Foundations.Pagination
import Mathlib.Order.Lattice

/-! # Walks by keys

A listing in descending order of keys is walked by its keys: a page holds the first keys below the
last one of the page before. What is listed may change between two pages. The walk returns each key
that was there all along exactly once, and all keys in descending order.
-/

namespace LotusAdvise.KeysetWalk

open Pagination

variable {K : Type*} [LinearOrder K]

/-- The keys that are still to come. -/
def Below (cursor : Option K) (k : K) : Prop := ∀ c ∈ cursor, k < c

/-- A page of the keys below the cursor, and the cursor that comes with it. -/
structure IsPage (keys : List K) (cursor : Option K) (page : List K) (next : Option K) : Prop where
  descending : page.Pairwise (· > ·)
  below : ∀ k ∈ page, Below cursor k
  last : next = none → ∀ k ∈ keys, Below cursor k → k ∈ page
  upTo : ∀ c ∈ next, c ∈ page ∧ (∀ k ∈ page, c ≤ k) ∧ ∀ k ∈ keys, Below cursor k → c ≤ k → k ∈ page

/-- What has been returned by a walk that stands at a cursor, or is through. -/
def Returned (steady : List K) (returned : List K) : Progress K → Prop
  | .next none => returned = []
  | .next (some c) => (∀ k ∈ returned, c ≤ k) ∧ ∀ k ∈ steady, c ≤ k → k ∈ returned
  | .finished => ∀ k ∈ steady, k ∈ returned

/-- The keys come in descending order, and the steady ones among them are there so far. -/
structure OnTrack (steady : List K) (returned : List K) (progress : Progress K) : Prop where
  descending : returned.Pairwise (· > ·)
  returned : Returned steady returned progress

variable {keys steady returned page matched : List K} {cursor next : Option K} {limit : ℕ}

theorem below_none {k : K} : Below none k := fun _ hc => nomatch hc

theorem below_some {c k : K} : Below (some c) k ↔ k < c := by
  constructor
  · exact fun h => h c rfl
  · rintro h _ ⟨⟩
    exact h

theorem onTrack_start (steady : List K) : OnTrack steady [] (.next none) := ⟨List.Pairwise.nil, rfl⟩

theorem OnTrack.subset {progress : Progress K} (h : OnTrack steady returned progress)
    {fewer : List K} (hsubset : fewer ⊆ steady) : OnTrack fewer returned progress where
  descending := h.descending
  returned := by
    rcases progress with (_ | c) | _
    · exact h.returned
    · exact ⟨h.returned.1, fun k hk => h.returned.2 k (hsubset hk)⟩
    · exact fun k hk => h.returned k (hsubset hk)

/-- Each page keeps a walk on its track. -/
theorem OnTrack.append (h : OnTrack steady returned (.next cursor))
    (hpage : IsPage keys cursor page next) (hsteady : steady ⊆ keys) :
    OnTrack steady (returned ++ page) (.ofCursor next) where
  descending := by
    refine List.pairwise_append.mpr ⟨h.descending, hpage.descending, fun k hk l hl => ?_⟩
    cases cursor with
    | none => rw [show returned = [] from h.returned] at hk; cases hk
    | some c => exact (hpage.below l hl c rfl).trans_le (h.returned.1 k hk)
  returned := by
    have hearlier : ∀ k ∈ steady, ¬ Below cursor k → k ∈ returned := by
      intro k hk habove
      cases cursor with
      | none => exact absurd below_none habove
      | some c =>
        exact h.returned.2 k hk (not_lt.mp fun hlt => habove (below_some.mpr hlt))
    cases hnext : next with
    | none =>
      intro k hk
      by_cases hbelow : Below cursor k
      · exact List.mem_append_right _ (hpage.last hnext k (hsteady hk) hbelow)
      · exact List.mem_append_left _ (hearlier k hk hbelow)
    | some c =>
      obtain ⟨hc, hleast, hupTo⟩ := hpage.upTo c hnext
      refine ⟨fun k hk => ?_, fun k hk hle => ?_⟩
      · rcases List.mem_append.mp hk with hk | hk
        · cases cursor with
          | none => rw [show returned = [] from h.returned] at hk; cases hk
          | some c' => exact (hpage.below c hc c' rfl).le.trans (h.returned.1 k hk)
        · exact hleast k hk
      · by_cases hbelow : Below cursor k
        · exact List.mem_append_right _ (hupTo k (hsteady hk) hbelow hle)
        · exact List.mem_append_left _ (hearlier k hk hbelow)

/-- A steady key is returned at most once, and once when the walk is through. -/
theorem OnTrack.count [BEq K] [LawfulBEq K] {progress : Progress K}
    (h : OnTrack steady returned progress) {k : K} (hk : k ∈ steady) :
    returned.count k ≤ 1 ∧ (progress = .finished → returned.count k = 1) := by
  have hnodup : returned.Nodup := h.descending.imp fun hgt => hgt.ne'
  refine ⟨List.nodup_iff_count_le_one.mp hnodup k, ?_⟩
  rintro rfl
  exact List.count_eq_one_of_mem hnodup (h.returned k hk)

/-- The first keys of a descending list of those below the cursor are a page. -/
theorem isPage_take (hdescending : matched.Pairwise (· > ·))
    (hmatched : ∀ k, k ∈ matched ↔ k ∈ keys ∧ Below cursor k) (hlimit : 0 < limit) :
    IsPage keys cursor (matched.take limit) (nextCursor matched limit) where
  descending := hdescending.sublist (List.take_sublist _ _)
  below k hk := ((hmatched k).mp (List.mem_of_mem_take hk)).2
  last hnone k hk hbelow := by
    have hwhole := @page_last _ matched (fun _ => true) limit
    simp only [List.filter_true] at hwhole
    rw [hwhole hnone hlimit]
    exact (hmatched k).mpr ⟨hk, hbelow⟩
  upTo c hc := by
    have hupTo := @page_upTo _ matched (fun _ => true) limit c
    simp only [List.filter_true] at hupTo
    obtain ⟨pre, post, rfl, htake⟩ := hupTo hc
    obtain ⟨-, hpost, hcross⟩ := List.pairwise_append.mp hdescending
    rw [htake]
    refine ⟨by simp, fun k hk => ?_, fun k hk hbelow hle => ?_⟩
    · rcases List.mem_append.mp hk with hk | hk
      · exact (hcross k hk c List.mem_cons_self).le
      · exact (List.mem_singleton.mp hk).ge
    · have hmem := (hmatched k).mpr ⟨hk, hbelow⟩
      rw [List.mem_append, List.mem_cons] at hmem
      rcases hmem with hmem | rfl | hmem
      · exact List.mem_append_left _ hmem
      · exact List.mem_append_right _ List.mem_cons_self
      · exact absurd ((List.pairwise_cons.mp hpost).1 k hmem) hle.not_gt

end LotusAdvise.KeysetWalk

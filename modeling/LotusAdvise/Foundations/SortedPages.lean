import Mathlib.Data.List.Sort

/-! # First entries of sorted lists

Which entries come first when a list is sorted and cut off is decided by how many entries
come before each. A filter may move past the sorting, and past the cut as long as it drops
none of the first entries.
-/

namespace LotusAdvise.SortedPages

variable {α : Type*} {r : α → α → Prop} [DecidableRel r] {p : α → Bool} {xs ys : List α} {a : α}
  {n : ℕ}

/-- How many entries come before an entry. -/
def rank (r : α → α → Prop) [DecidableRel r] (xs : List α) (a : α) : ℕ :=
  (xs.filter fun b => ¬ r a b).length

theorem rank_perm (h : xs.Perm ys) : rank r xs a = rank r ys a := (h.filter _).length_eq

/-- The first entries of a sorted list are those with few entries before them. -/
theorem mem_take_iff_rank (hsorted : xs.Pairwise r) (hn : xs.Nodup)
    (hanti : ∀ a ∈ xs, ∀ b ∈ xs, r a b → r b a → a = b) (hrefl : ∀ a ∈ xs, r a a) :
    a ∈ xs.take n ↔ a ∈ xs ∧ rank r xs a < n := by
  induction xs generalizing n with
  | nil => simp
  | cons x xs ih =>
    obtain ⟨hfirst, hsorted⟩ := List.pairwise_cons.mp hsorted
    obtain ⟨hnew, hn⟩ := List.nodup_cons.mp hn
    have ih := fun n => @ih n hsorted hn
      (fun a ha b hb => hanti a (List.mem_cons_of_mem _ ha) b (List.mem_cons_of_mem _ hb))
      fun a ha => hrefl a (List.mem_cons_of_mem _ ha)
    cases n with
    | zero => simp
    | succ n =>
      rw [List.take_succ_cons, List.mem_cons, List.mem_cons, ih n]
      constructor
      · rintro (rfl | ⟨ha, hrank⟩)
        · refine ⟨.inl rfl, ?_⟩
          have hnone : (a :: xs).filter (fun b => ¬ r a b) = [] := by
            rw [List.filter_eq_nil_iff]
            intro b hb
            rcases List.mem_cons.mp hb with rfl | hb
            · simpa using hrefl b List.mem_cons_self
            · simpa using hfirst b hb
          rw [rank, hnone]
          exact Nat.succ_pos n
        · refine ⟨.inr ha, ?_⟩
          have hsub : rank r (x :: xs) a ≤ rank r xs a + 1 := by
            rw [rank, List.filter_cons]
            split
            · exact le_of_eq (List.length_cons ..)
            · exact Nat.le_succ _
          omega
      · rintro ⟨rfl | ha, hrank⟩
        · exact .inl rfl
        · refine .inr ⟨ha, ?_⟩
          have hlater : ¬ r a x := by
            intro hback
            have heq := hanti a (List.mem_cons_of_mem _ ha) x List.mem_cons_self hback (hfirst a ha)
            exact hnew (heq ▸ ha)
          rw [rank, List.filter_cons, if_pos (by simpa using hlater), List.length_cons] at hrank
          exact Nat.lt_of_succ_lt_succ hrank

/-- Dropping entries before the cut changes nothing as long as none of the first ones is dropped. -/
theorem take_filter_eq_take_iff :
    (xs.filter p).take n = xs.take n ↔ ∀ a ∈ xs.take n, p a = true := by
  constructor
  · intro h a ha
    rw [← h] at ha
    exact (List.mem_filter.mp (List.mem_of_mem_take ha)).2
  · intro h
    induction xs generalizing n with
    | nil => simp
    | cons x xs ih =>
      cases n with
      | zero => simp
      | succ n =>
        rw [List.take_succ_cons] at h
        rw [List.filter_cons, if_pos (h x List.mem_cons_self), List.take_succ_cons,
          List.take_succ_cons, ih fun a ha => h a (List.mem_cons_of_mem _ ha)]

theorem map_inj_of_injOn {β : Type*} {f : α → β} (hf : ∀ a ∈ xs, ∀ b ∈ ys, f a = f b → a = b) :
    xs.map f = ys.map f ↔ xs = ys := by
  refine ⟨fun h => ?_, congrArg _⟩
  induction xs generalizing ys with
  | nil => exact (List.map_eq_nil_iff.mp h.symm).symm
  | cons x xs ih =>
    cases ys with
    | nil => cases h
    | cons y ys =>
      obtain ⟨hhead, htail⟩ := List.cons.inj h
      rw [hf x List.mem_cons_self y List.mem_cons_self hhead, ih (fun a ha b hb =>
        hf a (List.mem_cons_of_mem _ ha) b (List.mem_cons_of_mem _ hb)) htail]

variable [IsTrans α r] [Std.Total r]

theorem mem_take_insertionSort_iff (hn : xs.Nodup)
    (hanti : ∀ a ∈ xs, ∀ b ∈ xs, r a b → r b a → a = b) :
    a ∈ (xs.insertionSort r).take n ↔ a ∈ xs ∧ rank r xs a < n := by
  have hperm : (xs.insertionSort r).Perm xs := List.perm_insertionSort r xs
  rw [mem_take_iff_rank (List.pairwise_insertionSort r xs) (hperm.nodup_iff.mpr hn)
    (fun a ha b hb => hanti a (hperm.mem_iff.mp ha) b (hperm.mem_iff.mp hb))
    fun a _ => or_self_iff.mp (Std.Total.total a a), hperm.mem_iff, rank_perm hperm]

/-- Some entries of a list, sorted, are those entries of the sorted list. -/
theorem insertionSort_eq_filter (hys : ys.Nodup) (hn : xs.Nodup)
    (hanti : ∀ a ∈ xs, ∀ b ∈ xs, r a b → r b a → a = b)
    (hmem : ∀ a, a ∈ ys ↔ a ∈ xs ∧ p a = true) :
    ys.insertionSort r = (xs.insertionSort r).filter p := by
  have hperm : (ys.insertionSort r).Perm ((xs.insertionSort r).filter p) := by
    refine (List.perm_insertionSort r ys).trans (.trans ?_
      ((List.perm_insertionSort r xs).filter p).symm)
    exact (List.perm_ext_iff_of_nodup hys (hn.filter p)).mpr fun a => by rw [hmem, List.mem_filter]
  refine List.Perm.eq_of_pairwise (fun a b ha hb hab hba => ?_)
    (List.pairwise_insertionSort r ys) ((List.pairwise_insertionSort r xs).filter p) hperm
  have ha := ((hmem a).mp ((List.mem_insertionSort r).mp ha)).1
  have hb := (List.mem_insertionSort r).mp (List.mem_filter.mp hb).1
  exact hanti a ha b hb hab hba

end LotusAdvise.SortedPages

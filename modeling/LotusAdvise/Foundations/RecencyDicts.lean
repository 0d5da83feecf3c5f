import LotusAdvise.Foundations.Dict
import Mathlib.Data.Finset.Card

/-! # Dictionaries in the order of their use

The items of a dictionary are put in the order in which they were used, by moving an item to the end
when it is used, and the dictionary is kept small by dropping items from the front. When every item
is followed only by keys that were used since it was, an item is dropped only after enough other
keys were used.
-/

namespace LotusAdvise.Dict

variable {K V : Type*} [DecidableEq K]

/-- `d.pop(k, None)`. -/
def pop (d : Dict K V) (k : K) : Dict K V := d.filter fun item => item.1 ≠ k

/-- `d.move_to_end(k)`, for a key that is there. -/
def moveToEnd (d : Dict K V) (k : K) : Dict K V :=
  match get? d k with
  | none => d
  | some v => pop d k ++ [(k, v)]

/-- Drop the oldest items until there are at most `maxSize`, and count them. -/
def evictOldest (maxSize : ℕ) : Dict K V → ℕ → Dict K V × ℕ
  | [], evictions => ([], evictions)
  | item :: rest, evictions =>
    if maxSize < rest.length + 1 then evictOldest maxSize rest (evictions + 1)
    else (item :: rest, evictions)

variable {d : Dict K V} {k : K} {v : V} {item : K × V} {since : K → List K}

@[simp] theorem mem_pop : item ∈ pop d k ↔ item ∈ d ∧ item.1 ≠ k := by simp [pop]

theorem pop_sublist (d : Dict K V) (k : K) : (pop d k).Sublist d := List.filter_sublist

theorem key_notMem_pop : k ∉ (pop d k).map Prod.fst := by
  rintro hk
  obtain ⟨item, hitem, rfl⟩ := List.mem_map.mp hk
  exact (mem_pop.mp hitem).2 rfl

theorem pop_of_notMem (h : k ∉ d.map Prod.fst) : pop d k = d := by
  refine List.filter_eq_self.mpr fun item hitem => decide_eq_true ?_
  rintro rfl
  exact h (List.mem_map_of_mem hitem)

theorem pop_append (d e : Dict K V) : pop (d ++ e) k = pop d k ++ pop e k := List.filter_append ..

@[simp] theorem pop_singleton : pop [(k, v)] k = [] := by simp [pop]

/-- Setting a key does not change the other items. -/
theorem pop_set : pop (set d k v) k = pop d k := by
  unfold set Tables.upsert
  split_ifs
  · rw [pop_append, pop_singleton, List.append_nil]
  · have hkeeps : ∀ item ∈ d, decide ((if item.1 = k then (k, v) else item).1 ≠ k) =
        decide (item.1 ≠ k) := by
      intro item _
      split_ifs with hitem
      · rw [hitem]
      · rfl
    have hfixes : ∀ item ∈ pop d k, (if item.1 = k then (k, v) else item) = item :=
      fun item hitem => if_neg (mem_pop.mp hitem).2
    calc pop (d.map fun item => if item.1 = k then (k, v) else item) k
        = (pop d k).map fun item => if item.1 = k then (k, v) else item := by
          unfold pop
          rw [List.filter_map]
          exact congrArg _ (List.filter_congr hkeeps)
      _ = pop d k := (List.map_congr_left hfixes).trans (List.map_id _)

theorem moveToEnd_of_get? (h : get? d k = some v) : moveToEnd d k = pop d k ++ [(k, v)] := by
  unfold moveToEnd
  rw [h]

@[simp] theorem moveToEnd_set : moveToEnd (set d k v) k = pop d k ++ [(k, v)] := by
  rw [moveToEnd_of_get? get?_set_self, pop_set]

omit [DecidableEq K] in
/-- The items that are dropped are the oldest of those that are too many. -/
theorem evictOldest_eq (maxSize : ℕ) (d : Dict K V) (evictions : ℕ) :
    evictOldest maxSize d evictions =
      (d.drop (d.length - maxSize), evictions + (d.length - maxSize)) := by
  induction d generalizing evictions with
  | nil => simp [evictOldest]
  | cons item rest ih =>
    unfold evictOldest
    split_ifs with hlarge
    · have hdrop : (item :: rest).length - maxSize = rest.length - maxSize + 1 := by
        rw [List.length_cons]
        omega
      rw [ih, hdrop, List.drop_succ_cons]
      exact Prod.ext rfl (by omega)
    · have hdrop : (item :: rest).length - maxSize = 0 := by
        rw [List.length_cons]
        omega
      rw [hdrop]
      rfl

omit [DecidableEq K] in
theorem length_evictOldest_le (maxSize : ℕ) (d : Dict K V) (evictions : ℕ) :
    (evictOldest maxSize d evictions).1.length ≤ maxSize := by
  rw [evictOldest_eq, List.length_drop]
  omega

omit [DecidableEq K] in
/-- Nothing is lost without being counted. -/
theorem length_evictOldest_add (maxSize : ℕ) (d : Dict K V) (evictions : ℕ) :
    (evictOldest maxSize d evictions).1.length + (evictOldest maxSize d evictions).2 =
      d.length + evictions := by
  rw [evictOldest_eq, List.length_drop]
  omega

omit [DecidableEq K] in
theorem evictOldest_sublist (maxSize : ℕ) (d : Dict K V) (evictions : ℕ) :
    (evictOldest maxSize d evictions).1.Sublist d := by
  rw [evictOldest_eq]
  exact List.drop_sublist _ _

theorem length_pop (hn : (d.map Prod.fst).Nodup) :
    (pop d k).length + (if k ∈ d.map Prod.fst then 1 else 0) = d.length := by
  induction d with
  | nil => rfl
  | cons item rest ih =>
    rw [List.map_cons, List.nodup_cons] at hn
    by_cases hk : item.1 = k
    · have hrest : pop rest k = rest := pop_of_notMem (hk ▸ hn.1)
      have hpop : pop (item :: rest) k = rest := by
        rw [← List.singleton_append, pop_append, hrest, ← hk]
        exact congrArg (· ++ rest) pop_singleton
      rw [hpop, List.map_cons, if_pos (List.mem_cons.mpr (.inl hk.symm)), List.length_cons]
    · have hpop : pop (item :: rest) k = item :: pop rest k :=
        List.filter_cons_of_pos (decide_eq_true hk)
      have hmem : k ∈ (item :: rest).map Prod.fst ↔ k ∈ rest.map Prod.fst := by
        rw [List.map_cons, List.mem_cons]
        exact or_iff_right (Ne.symm hk)
      rw [hpop, List.length_cons, List.length_cons, ← ih hn.2]
      simp only [hmem]
      omega

/-- Every item is followed by keys that were used since it was. -/
def Recent (since : K → List K) (d : Dict K V) : Prop :=
  d.Pairwise fun older newer => newer.1 ∈ since older.1

omit [DecidableEq K] in
theorem Recent.mono {since' : K → List K} (h : Recent since d)
    (hmono : ∀ item ∈ d, ∀ k ∈ since item.1, k ∈ since' item.1) : Recent since' d :=
  List.Pairwise.imp_of_mem (fun ha _ => hmono _ ha _) h

omit [DecidableEq K] in
/-- A key that is moved to the end was used since all others were. -/
theorem Recent.concat (h : Recent since d) (hused : ∀ item ∈ d, k ∈ since item.1) :
    Recent since (d ++ [(k, v)]) := by
  refine List.pairwise_append.mpr ⟨h, List.pairwise_singleton _ _, fun item hitem newer hnewer => ?_⟩
  obtain rfl := List.mem_singleton.mp hnewer
  exact hused item hitem

/-- An item is dropped only after as many other keys were used as there may be. -/
theorem Recent.mem_evictOldest_or (h : Recent since d) (hn : (d.map Prod.fst).Nodup)
    (maxSize evictions : ℕ) (hitem : item ∈ d) :
    item ∈ (evictOldest maxSize d evictions).1 ∨ maxSize ≤ (since item.1).toFinset.card := by
  rw [evictOldest_eq]
  have hsplit := List.take_append_drop (d.length - maxSize) d
  rw [← hsplit] at hitem h hn
  rcases List.mem_append.mp hitem with hdropped | hkept
  · right
    rw [Recent, List.pairwise_append] at h
    rw [List.map_append] at hn
    have hpos : 0 < d.length - maxSize := by
      rcases Nat.eq_zero_or_pos (d.length - maxSize) with hzero | hpos
      · rw [hzero] at hdropped
        cases hdropped
      · exact hpos
    have hsubset : ((d.drop (d.length - maxSize)).map Prod.fst).toFinset ⊆
        (since item.1).toFinset := by
      intro newer hnewer
      obtain ⟨item', hitem', rfl⟩ := List.mem_map.mp (List.mem_toFinset.mp hnewer)
      exact List.mem_toFinset.mpr (h.2.2 item hdropped item' hitem')
    calc maxSize = (d.drop (d.length - maxSize)).length := by
          rw [List.length_drop]
          omega
      _ = ((d.drop (d.length - maxSize)).map Prod.fst).toFinset.card := by
          rw [List.toFinset_card_of_nodup (List.nodup_append.mp hn).2.1, List.length_map]
      _ ≤ (since item.1).toFinset.card := Finset.card_le_card hsubset
  · exact .inl hkept

theorem nodup_keys_pop (hn : (d.map Prod.fst).Nodup) : ((pop d k).map Prod.fst).Nodup :=
  hn.sublist ((pop_sublist d k).map Prod.fst)

theorem nodup_keys_pop_concat (hn : (d.map Prod.fst).Nodup) :
    ((pop d k ++ [(k, v)]).map Prod.fst).Nodup := by
  rw [List.map_append]
  refine List.nodup_append.mpr ⟨nodup_keys_pop hn, List.nodup_singleton k, ?_⟩
  rintro key hkey key' hkey' rfl
  obtain rfl := List.mem_singleton.mp hkey'
  exact key_notMem_pop hkey

end LotusAdvise.Dict

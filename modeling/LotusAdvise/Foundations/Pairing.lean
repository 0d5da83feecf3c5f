import Mathlib.Data.List.Perm.Basic
import Mathlib.Data.List.Nodup
import Mathlib.Data.List.Count

/-! # Paired lists

Two lists whose elements may carry keys are paired when each keyed element of one has
exactly one counterpart in the other. They are when they list the same keys, and list
none of them twice.
-/

namespace LotusAdvise

variable {α β κ : Type*} [DecidableEq κ]

/-- Every keyed element has exactly one element of the other list with its key. -/
structure Paired (f : α → Option κ) (g : β → Option κ) (as : List α) (bs : List β) : Prop where
  left : ∀ a ∈ as, ∀ k ∈ f a, (bs.countP fun b => g b = some k) = 1
  right : ∀ b ∈ bs, ∀ k ∈ g b, (as.countP fun a => f a = some k) = 1

theorem countP_eq_count_filterMap (f : α → Option κ) (as : List α) (k : κ) :
    (as.countP fun a => f a = some k) = (as.filterMap f).count k := by
  induction as with
  | nil => rfl
  | cons a as ih =>
    rw [List.countP_cons, ih]
    cases h : f a with
    | none => simp [h]
    | some l => simp [h, List.count_cons]

section Pairs

variable {f : α → Option κ} {g : β → Option κ} {as : List α} {bs : List β} {a : α} {b : β}

theorem paired_iff : Paired f g as bs ↔
    (as.filterMap f).Perm (bs.filterMap g) ∧ (as.filterMap f).Nodup := by
  constructor
  · intro h
    have hcount : ∀ k, (as.filterMap f).count k = (bs.filterMap g).count k ∧
        (as.filterMap f).count k ≤ 1 := by
      intro k
      by_cases hk : k ∈ as.filterMap f
      · obtain ⟨a, ha, hak⟩ := List.mem_filterMap.mp hk
        have hbs := h.left a ha k hak
        rw [countP_eq_count_filterMap] at hbs
        obtain ⟨b, hb, hbk⟩ := List.mem_filterMap.mp
          (List.count_pos_iff.mp (by omega : 0 < (bs.filterMap g).count k))
        have has := h.right b hb k hbk
        rw [countP_eq_count_filterMap] at has
        omega
      · have has := List.count_eq_zero.mpr hk
        have hbs : (bs.filterMap g).count k = 0 := by
          rw [List.count_eq_zero]
          intro hmem
          obtain ⟨b, hb, hbk⟩ := List.mem_filterMap.mp hmem
          have := h.right b hb k hbk
          rw [countP_eq_count_filterMap] at this
          omega
        omega
    exact ⟨List.perm_iff_count.mpr fun k => (hcount k).1,
      List.nodup_iff_count_le_one.mpr fun k => (hcount k).2⟩
  · rintro ⟨hperm, hnodup⟩
    constructor
    · intro a ha k hak
      rw [countP_eq_count_filterMap]
      exact List.count_eq_one_of_mem (hperm.nodup_iff.mp hnodup)
        (hperm.subset (List.mem_filterMap.mpr ⟨a, ha, hak⟩))
    · intro b hb k hbk
      rw [countP_eq_count_filterMap]
      exact List.count_eq_one_of_mem hnodup
        (hperm.symm.subset (List.mem_filterMap.mpr ⟨b, hb, hbk⟩))

theorem Paired.nil : Paired f g [] [] := paired_iff.mpr ⟨.nil, .nil⟩

/-- A new element without a partner must not have a key. -/
theorem Paired.concat_left_iff (h : Paired f g as bs) :
    Paired f g (as ++ [a]) bs ↔ f a = none := by
  obtain ⟨hperm, hnodup⟩ := paired_iff.mp h
  rw [paired_iff, List.filterMap_append]
  cases hfa : f a with
  | none => simpa [hfa] using ⟨hperm, hnodup⟩
  | some k =>
    refine iff_of_false ?_ (by simp)
    rintro ⟨hperm', _⟩
    have hlength := hperm'.length_eq
    rw [← hperm.length_eq] at hlength
    simp [hfa] at hlength

/-- Two new partners must not have the key of an earlier pair. -/
theorem Paired.concat_iff (h : Paired f g as bs) (hab : f a = g b) :
    Paired f g (as ++ [a]) (bs ++ [b]) ↔ ∀ k ∈ f a, ∀ earlier ∈ as, f earlier ≠ some k := by
  obtain ⟨hperm, hnodup⟩ := paired_iff.mp h
  rw [paired_iff, List.filterMap_append, List.filterMap_append]
  cases hfa : f a with
  | none =>
    rw [hfa] at hab
    simpa [hfa, ← hab] using ⟨hperm, hnodup⟩
  | some k =>
    rw [hfa] at hab
    have hlast : ([a].filterMap f) = [k] ∧ ([b].filterMap g) = [k] := by simp [hfa, ← hab]
    rw [hlast.1, hlast.2]
    constructor
    · rintro ⟨_, hnodup'⟩ l ⟨⟩ earlier hmem heq
      have hdisjoint := List.disjoint_of_nodup_append hnodup'
      exact hdisjoint (List.mem_filterMap.mpr ⟨earlier, hmem, heq⟩) (List.mem_singleton_self k)
    · intro hfresh
      refine ⟨hperm.append_right [k], List.Nodup.append hnodup (List.nodup_singleton k) ?_⟩
      intro l hl hk
      obtain rfl := List.mem_singleton.mp hk
      obtain ⟨earlier, hmem, heq⟩ := List.mem_filterMap.mp hl
      exact hfresh l rfl earlier hmem heq

end Pairs

end LotusAdvise

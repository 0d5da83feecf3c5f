import Mathlib.Data.List.Sort

/-! # Stable sorts

Sorting keeps entries that are tied in their order. Two lists are therefore sorted to the same one
exactly when the entries tied with each one occur in the same order in both.
-/

namespace LotusAdvise.StableSorts

variable {α : Type*} {r : α → α → Prop} [DecidableRel r] {xs ys : List α} {a b c : α}

/-- The order puts neither entry strictly before the other. -/
def Tied (r : α → α → Prop) (a b : α) : Prop := r a b ∧ r b a

instance (a b : α) : Decidable (Tied r a b) := inferInstanceAs (Decidable (_ ∧ _))

/-- The entries of a list that are tied with one, in their order. -/
def ties (r : α → α → Prop) [DecidableRel r] (xs : List α) (a : α) : List α :=
  xs.filter fun b => Tied r a b

theorem ties_cons_of_tied (h : Tied r a b) : ties r (b :: xs) a = b :: ties r xs a :=
  List.filter_cons_of_pos (decide_eq_true h)

theorem ties_cons_of_not_tied (h : ¬ Tied r a b) : ties r (b :: xs) a = ties r xs a :=
  List.filter_cons_of_neg fun hb => h (of_decide_eq_true hb)

theorem mem_ties : b ∈ ties r xs a ↔ b ∈ xs ∧ Tied r a b := by
  unfold ties
  rw [List.mem_filter, decide_eq_true_iff]

section Insertion

variable [IsTrans α r]

theorem ties_orderedInsert : ties r (xs.orderedInsert r b) a = ties r (b :: xs) a := by
  induction xs with
  | nil => rfl
  | cons x xs ih =>
    rw [List.orderedInsert_cons]
    split_ifs with hx
    · rfl
    · by_cases hb : Tied r a b
      · have hxa : ¬ Tied r a x := fun hxa => hx (trans_of r hb.2 hxa.1)
        rw [ties_cons_of_not_tied hxa, ih, ties_cons_of_tied hb, ties_cons_of_tied hb,
          ties_cons_of_not_tied hxa]
      · rw [ties_cons_of_not_tied hb]
        by_cases hxa : Tied r a x
        · rw [ties_cons_of_tied hxa, ties_cons_of_tied hxa, ih, ties_cons_of_not_tied hb]
        · rw [ties_cons_of_not_tied hxa, ties_cons_of_not_tied hxa, ih, ties_cons_of_not_tied hb]

/-- Insertion sort is stable. -/
theorem ties_insertionSort : ties r (xs.insertionSort r) a = ties r xs a := by
  induction xs with
  | nil => rfl
  | cons x xs ih =>
    rw [List.insertionSort_cons, ties_orderedInsert]
    by_cases hx : Tied r a x
    · rw [ties_cons_of_tied hx, ties_cons_of_tied hx, ih]
    · rw [ties_cons_of_not_tied hx, ties_cons_of_not_tied hx, ih]

end Insertion

variable [IsTrans α r] [Std.Total r]

omit [DecidableRel r] [IsTrans α r] in
theorem tied_self (a : α) : Tied r a a := by
  have h : r a a := or_self_iff.mp (Std.Total.total a a)
  exact ⟨h, h⟩

omit [IsTrans α r] in
/-- A sorted list is determined by its ties. -/
theorem eq_of_ties_eq (hxs : xs.Pairwise r) (hys : ys.Pairwise r)
    (h : ∀ a, ties r xs a = ties r ys a) : xs = ys := by
  induction xs generalizing ys with
  | nil =>
    cases ys with
    | nil => rfl
    | cons y ys =>
      have hy := h y
      rw [ties_cons_of_tied (tied_self y)] at hy
      cases hy
  | cons x xs ih =>
    cases ys with
    | nil =>
      have hx := h x
      rw [ties_cons_of_tied (tied_self x)] at hx
      cases hx
    | cons y ys =>
      obtain ⟨hx, hxrest⟩ := List.pairwise_cons.mp hxs
      obtain ⟨hy, hyrest⟩ := List.pairwise_cons.mp hys
      -- Each of the first entries occurs in the other list.
      have hyx : r y x := by
        have hmem : x ∈ ties r (y :: ys) x :=
          h x ▸ mem_ties.mpr ⟨List.mem_cons_self, tied_self x⟩
        rcases List.mem_cons.mp (mem_ties.mp hmem).1 with rfl | hmem
        · exact (tied_self x).1
        · exact hy x hmem
      have hxy : r x y := by
        have hmem : y ∈ ties r (x :: xs) y :=
          (h y).symm ▸ mem_ties.mpr ⟨List.mem_cons_self, tied_self y⟩
        rcases List.mem_cons.mp (mem_ties.mp hmem).1 with rfl | hmem
        · exact (tied_self y).1
        · exact hx y hmem
      have hhead := h x
      rw [ties_cons_of_tied (tied_self x), ties_cons_of_tied ⟨hxy, hyx⟩] at hhead
      obtain ⟨rfl, -⟩ := List.cons.inj hhead
      refine congrArg (x :: ·) (ih hxrest hyrest fun a => ?_)
      have ha := h a
      by_cases hax : Tied r a x
      · rw [ties_cons_of_tied hax, ties_cons_of_tied hax] at ha
        exact (List.cons.inj ha).2
      · rwa [ties_cons_of_not_tied hax, ties_cons_of_not_tied hax] at ha

theorem insertionSort_eq_iff :
    xs.insertionSort r = ys.insertionSort r ↔ ∀ a, ties r xs a = ties r ys a := by
  constructor
  · intro h a
    rw [← ties_insertionSort, h, ties_insertionSort]
  · intro h
    refine eq_of_ties_eq (List.pairwise_insertionSort r xs) (List.pairwise_insertionSort r ys)
      fun a => ?_
    rw [ties_insertionSort, ties_insertionSort, h]

end LotusAdvise.StableSorts

import Mathlib.Algebra.BigOperators.Group.List.Basic
import Mathlib.Algebra.Order.Group.Defs
import Mathlib.Algebra.Ring.Defs
import Mathlib.Tactic.Ring

/-! # Rows with amounts

Amounts are added to the first row of a key, and a missing row is created at the end. Read
by key and position, such a list is a function into which additions commute, whatever rows
they create.
-/

namespace LotusAdvise

/-- Rows with a key and an amount; a created row has none yet. -/
structure RowKind (Row K M : Type*) [AddCommMonoid M] where
  key : Row → K
  amount : Row → M
  create : K → Row
  add : Row → M → Row
  key_create : ∀ k, key (create k) = k
  amount_create : ∀ k, amount (create k) = 0
  key_add : ∀ row x, key (add row x) = key row
  amount_add : ∀ row x, amount (add row x) = amount row + x

namespace RowKind

variable {Row K M : Type*} [AddCommMonoid M] [DecidableEq K] (kind : RowKind Row K M)

/-- The rows with one of the key. -/
def ensure (k : K) : List Row → List Row
  | [] => [kind.create k]
  | row :: rows => if kind.key row = k then row :: rows else row :: ensure k rows

/-- `ensure(rows, k).amount += x`. -/
def addTo (k : K) (x : M) : List Row → List Row
  | [] => [kind.add (kind.create k) x]
  | row :: rows => if kind.key row = k then kind.add row x :: rows else row :: addTo k x rows

/-- The amounts of a key, row by row. -/
def column (k : K) (rows : List Row) : List M :=
  (rows.filter fun row => kind.key row = k).map kind.amount

/-- The amount in a row of a key, where a missing row counts as zero. -/
def cell (rows : List Row) (k : K) (i : ℕ) : M := (kind.column k rows).getD i 0

/-- The amount in the first row of a key. -/
def amountOf (rows : List Row) (k : K) : M := kind.cell rows k 0

variable {kind} {rows : List Row} {k k' : K} {x : M} {i : ℕ}

theorem column_cons (row : Row) : kind.column k (row :: rows) =
    if kind.key row = k then kind.amount row :: kind.column k rows else kind.column k rows := by
  unfold column
  by_cases h : kind.key row = k <;> simp [h]

theorem cell_cons (row : Row) : kind.cell (row :: rows) k i =
    if kind.key row = k then (kind.amount row :: kind.column k rows).getD i 0
    else kind.cell rows k i := by
  unfold cell
  rw [column_cons]
  split <;> rfl

/-- An amount is added to the first of a list, or is the only one. -/
def addHead (x : M) : List M → List M
  | [] => [x]
  | y :: ys => (y + x) :: ys

omit [DecidableEq K] in
theorem getD_addHead (x : M) (xs : List M) :
    (addHead x xs).getD i 0 = xs.getD i 0 + if i = 0 then x else 0 := by
  cases xs <;> cases i <;> simp [addHead]

/-- An addition changes the first row of its key only. -/
theorem column_addTo : kind.column k' (kind.addTo k x rows) =
    if k' = k then addHead x (kind.column k' rows) else kind.column k' rows := by
  induction rows with
  | nil =>
    rw [addTo, column_cons, kind.key_add, kind.key_create, kind.amount_add, kind.amount_create,
      zero_add]
    simp only [eq_comm (a := k)]
    split <;> rfl
  | cons row rows ih =>
    rw [addTo]
    split
    · next hrow =>
      rw [column_cons, column_cons, kind.key_add, kind.amount_add, hrow]
      simp only [eq_comm (a := k)]
      split <;> rfl
    · next hrow =>
      rw [column_cons, column_cons, ih]
      by_cases hk : k' = k
      · rw [if_pos hk, if_pos hk, if_neg fun h => hrow (h.trans hk),
          if_neg fun h => hrow (h.trans hk)]
      · rw [if_neg hk, if_neg hk]

theorem cell_addTo : kind.cell (kind.addTo k x rows) k' i =
    kind.cell rows k' i + if k' = k ∧ i = 0 then x else 0 := by
  unfold cell
  rw [column_addTo]
  by_cases hk : k' = k
  · rw [if_pos hk, getD_addHead]
    simp [hk]
  · simp [hk]

theorem column_ensure : kind.column k' (kind.ensure k rows) =
    if k' = k ∧ kind.column k' rows = [] then [0] else kind.column k' rows := by
  induction rows with
  | nil =>
    rw [ensure, column_cons, kind.key_create, kind.amount_create]
    by_cases hk : k' = k
    · simp [hk, column]
    · simp [hk, Ne.symm hk, column]
  | cons row rows ih =>
    rw [ensure]
    split
    · next hrow =>
      rw [if_neg]
      rintro ⟨rfl, hnil⟩
      rw [column_cons, if_pos hrow] at hnil
      cases hnil
    · next hrow =>
      rw [column_cons, column_cons, ih]
      by_cases hk : k' = k
      · have hne : ¬ kind.key row = k' := fun h => hrow (h.trans hk)
        simp only [if_neg hne]
      · simp [hk]

/-- Ensured rows show no difference. -/
@[simp] theorem cell_ensure : kind.cell (kind.ensure k rows) k' i = kind.cell rows k' i := by
  unfold cell
  rw [column_ensure]
  split
  · next h =>
    rw [h.2]
    cases i <;> simp
  · rfl

@[simp] theorem amountOf_addTo : kind.amountOf (kind.addTo k x rows) k' =
    kind.amountOf rows k' + if k' = k then x else 0 := by
  unfold amountOf
  rw [cell_addTo]
  simp

theorem amountOf_eq_find : kind.amountOf rows k =
    ((rows.find? fun row => kind.key row = k).map kind.amount).getD 0 := by
  induction rows with
  | nil => rfl
  | cons row rows ih =>
    unfold amountOf at ih ⊢
    rw [cell_cons, List.find?_cons]
    by_cases h : kind.key row = k
    · simp [h]
    · simp [h, ih]

/-- No row has a negative amount if and only if no cell has one. -/
theorem nonneg_iff [Preorder M] :
    (∀ row ∈ rows, 0 ≤ kind.amount row) ↔ ∀ k i, 0 ≤ kind.cell rows k i := by
  constructor
  · intro h k i
    unfold cell
    rw [List.getD_eq_getElem?_getD]
    cases hget : (kind.column k rows)[i]? with
    | none => exact le_refl 0
    | some x =>
      obtain ⟨row, hrow, rfl⟩ := List.mem_map.mp (List.mem_of_getElem? hget)
      exact h row (List.mem_filter.mp hrow).1
  · intro h row hrow
    have hmem : kind.amount row ∈ kind.column (kind.key row) rows :=
      List.mem_map.mpr ⟨row, List.mem_filter.mpr ⟨hrow, by simp⟩, rfl⟩
    obtain ⟨i, hi⟩ := List.mem_iff_getElem?.mp hmem
    have hcell := h (kind.key row) i
    rwa [cell, List.getD_eq_getElem?_getD, hi] at hcell

section Weighted

variable {R : Type*} [CommRing R] {kind : RowKind Row K R} {rows : List Row} {k : K} {x : R}
  (weight : K → R)

/-- The sum of all amounts, weighted by their keys. -/
def total (kind : RowKind Row K R) (weight : K → R) (rows : List Row) : R :=
  (rows.map fun row => kind.amount row * weight (kind.key row)).sum

theorem total_addTo :
    kind.total weight (kind.addTo k x rows) = kind.total weight rows + x * weight k := by
  induction rows with
  | nil => simp [addTo, total, kind.key_add, kind.key_create, kind.amount_add, kind.amount_create]
  | cons row rows ih =>
    rw [addTo]
    split
    · next hrow =>
      simp only [total, List.map_cons, List.sum_cons, kind.key_add, kind.amount_add, hrow]
      ring
    · simp only [total, List.map_cons, List.sum_cons] at ih ⊢
      rw [ih]
      ring

theorem total_ensure : kind.total weight (kind.ensure k rows) = kind.total weight rows := by
  induction rows with
  | nil => simp [ensure, total, kind.amount_create]
  | cons row rows ih =>
    rw [ensure]
    split
    · rfl
    · simp only [total, List.map_cons, List.sum_cons] at ih ⊢
      rw [ih]

end Weighted

end RowKind

end LotusAdvise

import LotusAdvise.Foundations.Except
import Mathlib.Data.List.Chain
import Mathlib.Data.List.Nodup
import Mathlib.Data.List.Sort
import Mathlib.Logic.Function.Basic

/-! # Tables of keyed rows

A table is the list of its rows in the order of their insertion, and a row is found by
its key. A row is either put in the place of the one stored under its key, or inserted
once: then an insertion under a key that is taken leaves the table as it is, and succeeds
only when the row stored there is the new one.
-/

namespace LotusAdvise.Tables

universe u

variable {Row : Type u} {Key E : Type*} [DecidableEq Key] {key : Row → Key}
  {rows rows' : List Row} {row : Row} {constraints : Except E Unit} {conflict : E}

/-- The row stored under a key. -/
def lookup (key : Row → Key) (rows : List Row) (k : Key) : Option Row :=
  rows.find? fun row => key row = k

/-- `INSERT ... ON CONFLICT (key) DO NOTHING`, and a comparison with the row that is stored then.
The constraints of the table are checked for a row that is inserted. -/
def insertOnce [DecidableEq Row] (key : Row → Key) (rows : List Row) (row : Row)
    (constraints : Except E Unit) (conflict : E) : Except E (List Row) :=
  match lookup key rows (key row) with
  | some stored => if stored = row then .ok rows else .error conflict
  | none => constraints.map fun _ => rows ++ [row]

/-- `INSERT ... ON CONFLICT (key) DO NOTHING`. -/
def insertIfAbsent (key : Row → Key) (rows : List Row) (row : Row) : List Row :=
  if lookup key rows (key row) = none then rows ++ [row] else rows

/-- `INSERT ... ON CONFLICT (key) DO UPDATE SET ...`: `merge stored row` is the row that takes the
place of the one stored under the key. -/
def upsertWith (merge : Row → Row → Row) (key : Row → Key) (rows : List Row) (row : Row) :
    List Row :=
  if lookup key rows (key row) = none then rows ++ [row]
  else rows.map fun stored => if key stored = key row then merge stored row else stored

/-- `INSERT ... ON CONFLICT (key) DO UPDATE`: the row takes the place of the one under its key. -/
def upsert (key : Row → Key) (rows : List Row) (row : Row) : List Row :=
  if lookup key rows (key row) = none then rows ++ [row]
  else rows.map fun stored => if key stored = key row then row else stored

theorem lookup_eq_none {k : Key} : lookup key rows k = none ↔ ∀ row ∈ rows, key row ≠ k := by
  simp [lookup, List.find?_eq_none]

theorem lookup_some {k : Key} (h : lookup key rows k = some row) : row ∈ rows ∧ key row = k :=
  ⟨List.mem_of_find?_eq_some h, by simpa using List.find?_some h⟩

/-- With distinct keys every row is found under its own. -/
theorem lookup_of_mem (hn : (rows.map key).Nodup) (h : row ∈ rows) :
    lookup key rows (key row) = some row := by
  rcases hl : lookup key rows (key row) with _ | found
  · exact absurd rfl (lookup_eq_none.mp hl row h)
  · obtain ⟨hmem, hkey⟩ := lookup_some hl
    rw [List.inj_on_of_nodup_map hn hmem h hkey]

/-- With distinct keys the order of the rows does not matter. -/
theorem lookup_perm (hn : (rows.map key).Nodup) (h : rows.Perm rows') (k : Key) :
    lookup key rows' k = lookup key rows k := by
  rcases hl : lookup key rows k with _ | row
  · rw [lookup_eq_none]
    exact fun row hrow => lookup_eq_none.mp hl row (h.mem_iff.mpr hrow)
  · obtain ⟨hmem, rfl⟩ := lookup_some hl
    exact lookup_of_mem ((h.map key).nodup_iff.mp hn) (h.mem_iff.mp hmem)

theorem nodup_keys_concat (hn : (rows.map key).Nodup) (h : lookup key rows (key row) = none) :
    ((rows ++ [row]).map key).Nodup := by
  rw [List.map_append, List.nodup_append]
  refine ⟨hn, List.nodup_singleton _, fun k hk k' hk' => ?_⟩
  obtain ⟨stored, hstored, rfl⟩ := List.mem_map.mp hk
  obtain rfl := List.mem_singleton.mp hk'
  exact lookup_eq_none.mp h stored hstored

theorem lookup_append (k : Key) : lookup key (rows ++ [row]) k =
    (lookup key rows k).or (if key row = k then some row else none) := by
  rw [lookup, List.find?_append, List.find?_singleton]
  simp [lookup]

theorem lookup_insertIfAbsent (k : Key) : lookup key (insertIfAbsent key rows row) k =
    (lookup key rows k).or (if key row = k then some row else none) := by
  unfold insertIfAbsent
  split
  · exact lookup_append k
  · next hsome =>
    split
    · next hk =>
      subst hk
      obtain ⟨stored, hstored⟩ := Option.ne_none_iff_exists'.mp hsome
      rw [hstored, Option.some_or]
    · exact (Option.or_none).symm

/-- The row of an upsert is found under its key, merged with the one stored there. -/
theorem lookup_upsertWith {merge : Row → Row → Row}
    (hmerge : ∀ stored row, key stored = key row → key (merge stored row) = key row) (k : Key) :
    lookup key (upsertWith merge key rows row) k =
      if key row = k then some ((lookup key rows k).elim row fun stored => merge stored row)
      else lookup key rows k := by
  unfold upsertWith
  split
  · next hnone =>
    rw [lookup_append]
    split
    · next hk => rw [← hk, hnone, Option.none_or, Option.elim_none]
    · exact Option.or_none
  · next hsome =>
    -- the replacement changes no key
    have hkeys : ∀ stored,
        key (if key stored = key row then merge stored row else stored) = key stored := by
      intro stored
      split
      · next heq => exact (hmerge stored row heq).trans heq.symm
      · rfl
    have hfind : lookup key
          (rows.map fun stored => if key stored = key row then merge stored row else stored) k =
        (lookup key rows k).map
          fun stored => if key stored = key row then merge stored row else stored := by
      simp only [lookup, List.find?_map, Function.comp_def, hkeys]
    rw [hfind]
    split
    · next hk =>
      subst hk
      obtain ⟨stored, hstored⟩ := Option.ne_none_iff_exists'.mp hsome
      rw [hstored, Option.map_some, if_pos (lookup_some hstored).2, Option.elim_some]
    · next hk =>
      rcases hl : lookup key rows k with _ | stored
      · rfl
      · rw [Option.map_some, if_neg]
        rw [(lookup_some hl).2]
        exact fun heq => hk heq.symm

theorem nodup_keys_upsertWith {merge : Row → Row → Row}
    (hmerge : ∀ stored row, key stored = key row → key (merge stored row) = key row)
    (hn : (rows.map key).Nodup) :
    ((upsertWith merge key rows row).map key).Nodup := by
  unfold upsertWith
  split
  · next hnone => exact nodup_keys_concat hn hnone
  · rw [List.map_map]
    convert hn using 1
    refine List.map_congr_left fun stored _ => ?_
    simp only [Function.comp_apply]
    split
    · next heq => exact (hmerge stored row heq).trans heq.symm
    · rfl

theorem nodup_keys_upsert (hn : (rows.map key).Nodup) : ((upsert key rows row).map key).Nodup := by
  rw [show upsert key rows row = upsertWith (fun _ row => row) key rows row from rfl]
  exact nodup_keys_upsertWith (fun _ _ _ => rfl) hn

theorem lookup_upsert (k : Key) : lookup key (upsert key rows row) k =
    if key row = k then some row else lookup key rows k := by
  have hmerged : lookup key (upsertWith (fun _ row => row) key rows row) k = _ :=
    lookup_upsertWith (fun _ _ _ => rfl) k
  rw [show upsert key rows row = upsertWith (fun _ row => row) key rows row from rfl]
  rw [hmerged]
  cases lookup key rows k <;> rfl

theorem mem_upsert_self : row ∈ upsert key rows row := by
  have hlookup : lookup key (upsert key rows row) (key row) = some row := by
    rw [lookup_upsert]
    exact if_pos rfl
  exact (lookup_some hlookup).1

theorem mem_upsert {other : Row} (h : other ∈ upsert key rows row) :
    other = row ∨ other ∈ rows := by
  unfold upsert at h
  split at h
  · exact (List.mem_append.mp h).symm.imp List.mem_singleton.mp id
  · obtain ⟨stored, hstored, rfl⟩ := List.mem_map.mp h
    split
    · exact .inl rfl
    · exact .inr hstored

section GuardedUpserts

variable {Item : Type u} {merge : Row → Row → Row} {toRow : Item → Row}
  {check : List Row → Item → Except E Unit} {items : List Item} {I : List Row → Prop}

/-- Upserts of items under distinct keys, each after its check: every item is stored or merged, and
the other rows stay; each check saw the row under its key as it was before all of them. -/
theorem foldlM_upsertWith
    (hmerge : ∀ stored row, key stored = key row → key (merge stored row) = key row)
    (h : items.foldlM (fun rows item =>
      (check rows item).map fun _ => upsertWith merge key rows (toRow item)) rows = .ok rows')
    (hn : (items.map fun item => key (toRow item)).Nodup) :
    (∀ item ∈ items,
      lookup key rows' (key (toRow item)) = some ((lookup key rows (key (toRow item))).elim
        (toRow item) fun stored => merge stored (toRow item)) ∧
      ∃ before, check before item = .ok () ∧
        lookup key before (key (toRow item)) = lookup key rows (key (toRow item))) ∧
    ∀ k, (∀ item ∈ items, key (toRow item) ≠ k) → lookup key rows' k = lookup key rows k := by
  induction items generalizing rows with
  | nil =>
    obtain rfl := foldlM_nil_eq_ok.mp h
    exact ⟨by simp, fun _ _ => rfl⟩
  | cons item items ih =>
    obtain ⟨rows₁, hitem, hrest⟩ := foldlM_cons_eq_ok.mp h
    obtain ⟨⟨⟩, hcheck, rfl⟩ := map_eq_ok.mp hitem
    obtain ⟨hnew, hlater⟩ := List.nodup_cons.mp hn
    obtain ⟨hstored, hothers⟩ := ih hrest hlater
    have hdistinct : ∀ later ∈ items, key (toRow later) ≠ key (toRow item) := by
      intro later hmem heq
      exact hnew (List.mem_map.mpr ⟨later, hmem, heq⟩)
    constructor
    · intro other hother
      rcases List.mem_cons.mp hother with rfl | hother
      · refine ⟨?_, rows, hcheck, rfl⟩
        rw [hothers _ hdistinct, lookup_upsertWith hmerge, if_pos rfl]
      · have hsame : lookup key (upsertWith merge key rows (toRow item)) (key (toRow other)) =
            lookup key rows (key (toRow other)) := by
          rw [lookup_upsertWith hmerge, if_neg (hdistinct other hother).symm]
        obtain ⟨hrow, before, hbefore, hlookup⟩ := hstored other hother
        rw [hsame] at hrow hlookup
        exact ⟨hrow, before, hbefore, hlookup⟩
    · intro k hk
      rw [hothers k fun later hmem => hk later (List.mem_cons_of_mem _ hmem),
        lookup_upsertWith hmerge, if_neg (hk item List.mem_cons_self)]

/-- Upserts of items under distinct keys go through when each check does on every table that has
the same row under the key of its item and meets an invariant of the upserts. -/
theorem exists_foldlM_upsertWith
    (hmerge : ∀ stored row, key stored = key row → key (merge stored row) = key row)
    (hn : (items.map fun item => key (toRow item)).Nodup) (hI : I rows)
    (hkeep : ∀ before, I before → ∀ item ∈ items, I (upsertWith merge key before (toRow item)))
    (hcheck : ∀ before, I before → ∀ item ∈ items,
      lookup key before (key (toRow item)) = lookup key rows (key (toRow item)) →
      check before item = .ok ()) :
    ∃ rows', items.foldlM (fun rows item =>
      (check rows item).map fun _ => upsertWith merge key rows (toRow item)) rows = .ok rows' := by
  induction items generalizing rows with
  | nil => exact ⟨rows, foldlM_nil_eq_ok.mpr rfl⟩
  | cons item items ih =>
    obtain ⟨hnew, hlater⟩ := List.nodup_cons.mp hn
    have hfirst := hcheck rows hI item List.mem_cons_self rfl
    obtain ⟨rows', hrest⟩ := ih hlater
      (hkeep rows hI item List.mem_cons_self)
      (fun before hbefore other hother => hkeep before hbefore other (List.mem_cons_of_mem _ hother))
      (fun before hbefore other hother hsame => by
        refine hcheck before hbefore other (List.mem_cons_of_mem _ hother) ?_
        rw [hsame, lookup_upsertWith hmerge, if_neg]
        exact fun heq => hnew (List.mem_map.mpr ⟨other, hother, heq.symm⟩))
    exact ⟨rows', foldlM_cons_eq_ok.mpr ⟨_, map_eq_ok.mpr ⟨(), hfirst, rfl⟩, hrest⟩⟩

/-- Upserts of items under distinct keys, each after its check: every item is stored, and the other
rows stay; each check saw the row under its key as it was before all of them. -/
theorem foldlM_upsert
    (h : items.foldlM (fun rows item =>
      (check rows item).map fun _ => upsert key rows (toRow item)) rows = .ok rows')
    (hn : (items.map fun item => key (toRow item)).Nodup) :
    (∀ item ∈ items, lookup key rows' (key (toRow item)) = some (toRow item) ∧
      ∃ before, check before item = .ok () ∧
        lookup key before (key (toRow item)) = lookup key rows (key (toRow item))) ∧
    ∀ k, (∀ item ∈ items, key (toRow item) ≠ k) → lookup key rows' k = lookup key rows k := by
  have hmerged : items.foldlM (fun rows item => (check rows item).map fun _ =>
      upsertWith (fun _ row => row) key rows (toRow item)) rows = .ok rows' := h
  obtain ⟨hstored, hothers⟩ := foldlM_upsertWith (fun _ _ _ => rfl) hmerged hn
  refine ⟨fun item hitem => ?_, hothers⟩
  obtain ⟨hrow, hbefore⟩ := hstored item hitem
  refine ⟨?_, hbefore⟩
  rw [hrow]
  cases lookup key rows (key (toRow item)) <;> rfl

theorem nodup_keys_foldlM_upsert
    (h : items.foldlM (fun rows item =>
      (check rows item).map fun _ => upsert key rows (toRow item)) rows = .ok rows')
    (hn : (rows.map key).Nodup) : (rows'.map key).Nodup := by
  induction items generalizing rows with
  | nil =>
    obtain rfl := foldlM_nil_eq_ok.mp h
    exact hn
  | cons item items ih =>
    obtain ⟨rows₁, hitem, hrest⟩ := foldlM_cons_eq_ok.mp h
    obtain ⟨_, -, rfl⟩ := map_eq_ok.mp hitem
    exact ih hrest (nodup_keys_upsert hn)

end GuardedUpserts

/-- `dict.setdefault(k, v)`. -/
def setDefault {V : Type*} (dict : Key → Option V) (k : Key) (v : V) : Key → Option V :=
  if (dict k).isNone then Function.update dict k (some v) else dict

theorem setDefault_apply {V : Type*} {dict : Key → Option V} {k : Key} {v : V} (k' : Key) :
    setDefault dict k v k' = (dict k').or (if k = k' then some v else none) := by
  unfold setDefault
  by_cases hk : k = k'
  · subst hk
    cases hv : dict k with
    | none => simp
    | some stored => simp [hv]
  · split
    · rw [Function.update_of_ne (Ne.symm hk), Option.or_none]
    · rw [Option.or_none]

section InsertOnce

variable [DecidableEq Row]

/-- An insertion that goes through found its row stored, or appended it under a free key. -/
theorem insertOnce_eq_ok : insertOnce key rows row constraints conflict = .ok rows' ↔
    (lookup key rows (key row) = some row ∧ rows' = rows) ∨
      (lookup key rows (key row) = none ∧ constraints = .ok () ∧ rows' = rows ++ [row]) := by
  unfold insertOnce
  rcases hl : lookup key rows (key row) with _ | stored
  · rcases constraints with e | ⟨⟩
    · simp [Except.map]
    · simp [Except.map, eq_comm]
  · by_cases hs : stored = row
    · simp [hs, eq_comm]
    · simp [hs]

/-- A row that is not in the table is inserted exactly when its key is free. -/
theorem insertOnce_new (hrow : row ∉ rows) :
    insertOnce key rows row constraints conflict = .ok rows' ↔
      lookup key rows (key row) = none ∧ constraints = .ok () ∧ rows' = rows ++ [row] := by
  rw [insertOnce_eq_ok]
  constructor
  · rintro (⟨hl, _⟩ | h)
    · exact absurd (lookup_some hl).1 hrow
    · exact h
  · exact .inr

/-- An insertion keeps all rows. -/
theorem subset_insertOnce (h : insertOnce key rows row constraints conflict = .ok rows') :
    rows ⊆ rows' := by
  rcases insertOnce_eq_ok.mp h with ⟨_, rfl⟩ | ⟨_, _, rfl⟩
  · exact List.Subset.refl _
  · exact List.subset_append_left _ _

theorem mem_insertOnce (h : insertOnce key rows row constraints conflict = .ok rows') {other : Row}
    (hother : other ∈ rows') : other ∈ rows ∨ other = row := by
  rcases insertOnce_eq_ok.mp h with ⟨_, rfl⟩ | ⟨_, _, rfl⟩
  · exact .inl hother
  · simpa using hother

/-- What an insertion stores is there afterwards, beside what was there before. -/
theorem mem_of_insertOnce (h : insertOnce key rows row constraints conflict = .ok rows') :
    rows ⊆ rows' ∧ row ∈ rows' := by
  rcases insertOnce_eq_ok.mp h with ⟨hlookup, rfl⟩ | ⟨_, _, rfl⟩
  · exact ⟨List.Subset.refl _, (lookup_some hlookup).1⟩
  · exact ⟨List.subset_append_left _ _,
      List.mem_append_right _ (List.mem_singleton_self _)⟩

/-- When only one of the rows is new, insertions in a row add this one, if anything. -/
theorem foldlM_insertOnce {check : Row → Except E Unit} {xs : List Row}
    (h : xs.foldlM (fun rows x => insertOnce key rows x (check x) conflict) rows = .ok rows')
    (hxs : ∀ x ∈ xs, x ∈ rows ∨ x = row) :
    (rows' = rows ∨ lookup key rows (key row) = none ∧ rows' = rows ++ [row]) ∧
      ∀ x ∈ xs, x ∈ rows' := by
  induction xs generalizing rows with
  | nil => exact ⟨.inl (foldlM_nil_eq_ok.mp h).symm, by simp⟩
  | cons x xs ih =>
    obtain ⟨rows₁, hx, hrest⟩ := foldlM_cons_eq_ok.mp h
    have hsub := subset_insertOnce hx
    obtain ⟨hrows, hstored⟩ := ih hrest fun y hy =>
      (hxs y (List.mem_cons_of_mem x hy)).imp_left fun hmem => hsub hmem
    rcases insertOnce_eq_ok.mp hx with ⟨hl, rfl⟩ | ⟨hnone, -, rfl⟩
    · refine ⟨hrows, fun y hy => ?_⟩
      rcases List.mem_cons.mp hy with rfl | hy
      · have hmem := (lookup_some hl).1
        rcases hrows with rfl | ⟨-, rfl⟩
        · exact hmem
        · exact List.mem_append_left _ hmem
      · exact hstored y hy
    · -- an insertion can only be that of the new row, after which its key is taken
      have hnew : x ∉ rows := fun hmem => lookup_eq_none.mp hnone x hmem rfl
      obtain rfl := (hxs x List.mem_cons_self).resolve_left hnew
      have hrows' : rows' = rows ++ [x] := by
        rcases hrows with heq | ⟨hfree, -⟩
        · exact heq
        · exact absurd rfl (lookup_eq_none.mp hfree x (by simp))
      subst hrows'
      exact ⟨.inr ⟨hnone, rfl⟩, fun y hy => (List.mem_cons.mp hy).elim
        (fun heq => by simp [heq]) (hstored y)⟩

/-- Insertions in a row go through when every row is stored, or is the new one under a free key. -/
theorem exists_foldlM_insertOnce {check : Row → Except E Unit} {xs : List Row}
    (hn : (rows.map key).Nodup) (hxs : ∀ x ∈ xs, x ∈ rows ∨ x = row)
    (hfree : row ∈ rows ∨ lookup key rows (key row) = none) (hcheck : check row = .ok ()) :
    ∃ rows', xs.foldlM (fun rows x => insertOnce key rows x (check x) conflict) rows = .ok rows' := by
  induction xs generalizing rows with
  | nil => exact ⟨rows, foldlM_nil_eq_ok.mpr rfl⟩
  | cons x xs ih =>
    have hlater : ∀ y ∈ xs, y ∈ rows ∨ y = row := fun y hy => hxs y (List.mem_cons_of_mem x hy)
    by_cases hx : x ∈ rows
    · have hstored : insertOnce key rows x (check x) conflict = .ok rows :=
        insertOnce_eq_ok.mpr (.inl ⟨lookup_of_mem hn hx, rfl⟩)
      obtain ⟨rows', hrest⟩ := ih hn hlater hfree
      exact ⟨rows', foldlM_cons_eq_ok.mpr ⟨rows, hstored, hrest⟩⟩
    · obtain rfl := (hxs x List.mem_cons_self).resolve_left hx
      have hnone := hfree.resolve_left hx
      have hadded : insertOnce key rows x (check x) conflict = .ok (rows ++ [x]) :=
        insertOnce_eq_ok.mpr (.inr ⟨hnone, hcheck, rfl⟩)
      obtain ⟨rows', hrest⟩ := ih (nodup_keys_concat hn hnone)
        (fun y hy => .inl ((hlater y hy).elim (List.mem_append_left _) fun heq => by simp [heq]))
        (.inl (by simp))
      exact ⟨rows', foldlM_cons_eq_ok.mpr ⟨_, hadded, hrest⟩⟩

end InsertOnce

section OrderByColumns

variable (collation : LinearOrder String)

/-- The order of two rows by a list of columns. -/
def OrderedByColumns : List (Row → String) → Row → Row → Prop
  | [], _, _ => True
  | column :: columns, a, b => collation.lt (column a) (column b) ∨
    column a = column b ∧ OrderedByColumns columns a b

instance OrderedByColumns.decidable :
    (columns : List (Row → String)) → DecidableRel (OrderedByColumns collation columns)
  | [], _, _ => isTrue trivial
  | column :: columns, a, b =>
    have := collation.toDecidableLT (column a) (column b)
    have := OrderedByColumns.decidable columns a b
    inferInstanceAs (Decidable (_ ∨ _ ∧ _))

/-- `ORDER BY` a list of columns. -/
def orderByColumns (columns : List (Row → String)) (rows : List Row) : List Row :=
  rows.insertionSort (OrderedByColumns collation columns)

theorem orderByColumns_perm (columns : List (Row → String)) :
    (orderByColumns collation columns rows).Perm rows :=
  List.perm_insertionSort _ rows

end OrderByColumns

section OrderBy

variable (collation : LinearOrder String) (first second : Row → String)

/-- The order of the rows in a query with `ORDER BY first, second`. -/
def OrderedBefore (a b : Row) : Prop :=
  collation.lt (first a) (first b) ∨ first a = first b ∧ collation.le (second a) (second b)

instance : DecidableRel (OrderedBefore collation first second) := fun a b =>
  have := collation.toDecidableLT (first a) (first b)
  have := collation.toDecidableLE (second a) (second b)
  inferInstanceAs (Decidable (_ ∨ _ ∧ _))

/-- `(first, second) < (first, second)`. -/
def RowBefore (a b : Row) : Prop :=
  collation.lt (first a) (first b) ∨ first a = first b ∧ collation.lt (second a) (second b)

instance : DecidableRel (RowBefore collation first second) := fun a b =>
  have := collation.toDecidableLT (first a) (first b)
  have := collation.toDecidableLT (second a) (second b)
  inferInstanceAs (Decidable (_ ∨ _ ∧ _))

def orderBy (rows : List Row) : List Row :=
  rows.insertionSort (OrderedBefore collation first second)

/-- `ORDER BY first DESC, second DESC`. -/
def orderByDesc (rows : List Row) : List Row := (orderBy collation first second rows).reverse

variable {collation first second}

instance : IsTrans Row (OrderedBefore collation first second) where
  trans a b c := by
    let := collation
    rintro (h | ⟨heq, h⟩) (h' | ⟨heq', h'⟩)
    · exact .inl (lt_trans h h')
    · exact .inl (heq' ▸ h)
    · exact .inl (heq ▸ h')
    · exact .inr ⟨heq.trans heq', le_trans h h'⟩

instance : Std.Total (OrderedBefore collation first second) where
  total a b := by
    let := collation
    rcases lt_trichotomy (first a) (first b) with h | heq | h
    · exact .inl (.inl h)
    · exact (le_total (second a) (second b)).imp (fun h => .inr ⟨heq, h⟩) fun h => .inr ⟨heq.symm, h⟩
    · exact .inr (.inl h)

/-- The rows of a query come in the order of the table exactly when the table is in order. -/
theorem orderBy_eq_self : orderBy collation first second rows = rows ↔
    rows.Pairwise (OrderedBefore collation first second) := by
  constructor
  · intro h
    rw [← h]
    exact List.pairwise_insertionSort _ rows
  · exact List.Pairwise.insertionSort_eq

/-- A row that was inserted last comes last exactly when it does not sort before the row inserted
before it. -/
theorem orderBy_concat_eq_self : orderBy collation first second (rows ++ [row]) = rows ++ [row] ↔
    orderBy collation first second rows = rows ∧
      ∀ last ∈ rows.getLast?, OrderedBefore collation first second last row := by
  rw [orderBy_eq_self, orderBy_eq_self, ← List.isChain_iff_pairwise, ← List.isChain_iff_pairwise,
    List.isChain_append]
  simp

/-- Rows that differ in the second column are strictly in order. -/
theorem rowBefore_iff {a b : Row} (hne : second a ≠ second b) :
    RowBefore collation first second a b ↔ OrderedBefore collation first second a b := by
  let := collation
  unfold RowBefore OrderedBefore
  constructor
  · exact Or.imp_right fun h => ⟨h.1, le_of_lt h.2⟩
  · exact Or.imp_right fun h => ⟨h.1, lt_of_le_of_ne h.2 hne⟩

theorem RowBefore.asymm {a b : Row} (h : RowBefore collation first second a b) :
    ¬ RowBefore collation first second b a := by
  let := collation
  rcases h with h | ⟨heq, h⟩
  · rintro (h' | ⟨heq', -⟩)
    · exact lt_asymm h h'
    · exact absurd heq' (ne_of_gt h)
  · rintro (h' | ⟨-, h'⟩)
    · exact absurd heq (ne_of_gt h')
    · exact lt_asymm h h'

theorem orderByDesc_perm : (orderByDesc collation first second rows).Perm rows :=
  (List.reverse_perm _).trans (List.perm_insertionSort _ rows)

/-- Rows with different second columns come strictly descending. -/
theorem pairwise_orderByDesc (hn : (rows.map second).Nodup) :
    (orderByDesc collation first second rows).Pairwise fun a b =>
      RowBefore collation first second b a := by
  have hperm : (orderBy collation first second rows).Perm rows := List.perm_insertionSort _ rows
  have hdistinct : (orderBy collation first second rows).Pairwise fun a b => second a ≠ second b :=
    List.pairwise_map.mp ((hperm.map second).nodup_iff.mpr hn)
  rw [orderByDesc, List.pairwise_reverse]
  refine ((List.pairwise_insertionSort _ rows).and hdistinct).imp ?_
  rintro a b ⟨h, hne⟩
  exact (rowBefore_iff hne).mpr h

/-- A query on some of the rows returns them in the order in which all of them would come. -/
theorem orderByDesc_filter {p : Row → Bool} (hn : (rows.map second).Nodup) :
    orderByDesc collation first second (rows.filter p) =
      (orderByDesc collation first second rows).filter p := by
  refine List.Perm.eq_of_pairwise (fun a b _ _ hab hba => absurd hab hba.asymm)
    (pairwise_orderByDesc (hn.sublist (List.filter_sublist.map second)))
    ((pairwise_orderByDesc hn).filter p) ?_
  exact orderByDesc_perm.trans (orderByDesc_perm.filter p).symm

/-- A change that keeps both columns keeps the order of the rows. -/
theorem orderByDesc_map {f : Row → Row} (hfirst : ∀ row, first (f row) = first row)
    (hsecond : ∀ row, second (f row) = second row) :
    orderByDesc collation first second (rows.map f) =
      (orderByDesc collation first second rows).map f := by
  rw [orderByDesc, orderByDesc, List.map_reverse, orderBy, orderBy]
  refine congrArg List.reverse (List.map_insertionSort _ _ f rows fun a _ b _ => ?_).symm
  rw [OrderedBefore, OrderedBefore, hfirst, hfirst, hsecond, hsecond]

end OrderBy

end LotusAdvise.Tables

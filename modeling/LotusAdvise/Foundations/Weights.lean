import LotusAdvise.Foundations.Dict
import Mathlib.Algebra.BigOperators.Group.Finset.Basic
import Mathlib.Algebra.BigOperators.Group.Finset.Piecewise

/-! # Weights by key

Rows carry weights under keys, and several rows can have one key. What a group of keys weighs
together depends only on what each key weighs. A dictionary of rows keeps one row for each key,
the last one.
-/

namespace LotusAdvise

namespace Dict

variable {K V Item : Type*} [DecidableEq K]

/-- Of several items with one key, the last one counts. -/
theorem get?_ofItems (items : List (K × V)) (k : K) :
    get? (ofItems items) k = ((items.filter fun item => item.1 = k).getLast?).map Prod.snd := by
  induction items using List.reverseRecOn with
  | nil => rfl
  | append_singleton items item ih =>
    have hset : ofItems (items ++ [item]) = set (ofItems items) item.1 item.2 := by
      rw [ofItems, List.foldl_append]
      rfl
    rw [hset, get?_set, ih, List.filter_append]
    by_cases h : item.1 = k
    · rw [if_pos h, List.filter_singleton, decide_eq_true h, cond_true, List.getLast?_append]
      rfl
    · rw [if_neg h, List.filter_singleton, decide_eq_false h, cond_false, List.append_nil]

theorem mem_keys_ofItems {items : List (K × V)} {k : K} :
    k ∈ (ofItems items).map Prod.fst ↔ k ∈ items.map Prod.fst := by
  rw [← not_iff_not, ← get?_eq_none, get?_ofItems, Option.map_eq_none_iff, List.getLast?_eq_none_iff,
    List.filter_eq_nil_iff, List.mem_map, not_exists]
  constructor
  · rintro h item ⟨hitem, rfl⟩
    exact h item hitem (decide_eq_true rfl)
  · intro h item hitem hkey
    exact h item ⟨hitem, of_decide_eq_true hkey⟩

/-- What the items of a key sum up to. -/
theorem getD_get?_foldl_add {M : Type*} [AddCommMonoid M] (key : Item → Option K)
    (weight : Item → M) (d : Dict K M) (items : List Item) (k : K) :
    (get? (items.foldl (fun d item =>
        match key item with
        | none => d
        | some k => set d k ((get? d k).getD 0 + weight item)) d) k).getD 0 =
      (get? d k).getD 0 + ((items.filter fun item => key item = some k).map weight).sum := by
  induction items generalizing d with
  | nil => simp
  | cons item items ih =>
    rw [List.foldl_cons, ih]
    cases hkey : key item with
    | none => simp [hkey]
    | some k' =>
      dsimp only
      rw [get?_set]
      by_cases h : k' = k
      · rw [if_pos h, Option.getD_some, List.filter_cons_of_pos (by simp [hkey, h]), List.map_cons,
          List.sum_cons, h, add_assoc]
      · rw [if_neg h, List.filter_cons_of_neg (by simp [hkey, h])]

theorem nodup_keys_foldl_add {M : Type*} [AddCommMonoid M] (key : Item → Option K)
    (weight : Item → M) {d : Dict K M} (hn : (d.map Prod.fst).Nodup) (items : List Item) :
    ((items.foldl (fun d item =>
      match key item with
      | none => d
      | some k => set d k ((get? d k).getD 0 + weight item)) d).map Prod.fst).Nodup := by
  refine List.foldlRecOn (motive := fun d : Dict K M => (d.map Prod.fst).Nodup) _ _ hn ?_
  intro d hd item _
  split
  · exact hd
  · exact nodup_keys_set hd

end Dict

namespace Weights

variable {K M : Type*} [DecidableEq K] [AddCommMonoid M] {rows rows' : List (K × M)}

/-- What the rows of a key weigh together. -/
def weightOf (rows : List (K × M)) (k : K) : M :=
  ((rows.filter fun row => row.1 = k).map Prod.snd).sum

/-- What the rows of a group of keys weigh together. -/
def weightWhere (rows : List (K × M)) (p : K → Prop) [DecidablePred p] : M :=
  ((rows.filter fun row => p row.1).map Prod.snd).sum

omit [DecidableEq K] in
theorem weightWhere_iff (rows : List (K × M)) {p q : K → Prop} [DecidablePred p] [DecidablePred q]
    (h : ∀ k, p k ↔ q k) : weightWhere rows p = weightWhere rows q := by
  unfold weightWhere
  congr 2
  exact List.filter_congr fun row _ => decide_eq_decide.mpr (h row.1)

theorem weightWhere_eq_sum (p : K → Prop) [DecidablePred p] (keys : Finset K)
    (hkeys : ∀ row ∈ rows, row.1 ∈ keys) :
    weightWhere rows p = ∑ k ∈ keys, if p k then weightOf rows k else 0 := by
  induction rows with
  | nil => simp [weightWhere, weightOf]
  | cons row rows ih =>
    have hrow : ∀ k, weightOf (row :: rows) k = (if row.1 = k then row.2 else 0) + weightOf rows k := by
      intro k
      unfold weightOf
      by_cases h : row.1 = k
      · rw [if_pos h, List.filter_cons_of_pos (by simpa using h), List.map_cons, List.sum_cons]
      · rw [if_neg h, List.filter_cons_of_neg (by simpa using h), zero_add]
    have hsplit : ∀ k, (if p k then weightOf (row :: rows) k else 0) =
        (if row.1 = k then (if p k then row.2 else 0) else 0) +
          if p k then weightOf rows k else 0 := by
      intro k
      rw [hrow]
      by_cases h : p k <;> by_cases h' : row.1 = k <;> simp [h, h']
    have hmem := hkeys row List.mem_cons_self
    rw [Finset.sum_congr rfl fun k _ => hsplit k, Finset.sum_add_distrib,
      ← ih fun other h => hkeys other (.tail _ h), Finset.sum_ite_eq, if_pos hmem]
    unfold weightWhere
    by_cases h : p row.1
    · rw [if_pos h, List.filter_cons_of_pos (by simpa using h), List.map_cons, List.sum_cons]
    · rw [if_neg h, List.filter_cons_of_neg (by simpa using h), zero_add]

/-- Rows that weigh the same for each key weigh the same for each group of keys. -/
theorem weightWhere_congr (h : ∀ k, weightOf rows k = weightOf rows' k) (p : K → Prop)
    [DecidablePred p] : weightWhere rows p = weightWhere rows' p := by
  have hkeys : ∀ row ∈ rows, row.1 ∈ ((rows ++ rows').map Prod.fst).toFinset := by
    intro row hrow
    exact List.mem_toFinset.mpr (List.mem_map_of_mem (List.mem_append_left _ hrow))
  have hkeys' : ∀ row ∈ rows', row.1 ∈ ((rows ++ rows').map Prod.fst).toFinset := by
    intro row hrow
    exact List.mem_toFinset.mpr (List.mem_map_of_mem (List.mem_append_right _ hrow))
  rw [weightWhere_eq_sum p _ hkeys, weightWhere_eq_sum p _ hkeys']
  refine Finset.sum_congr rfl fun k _ => ?_
  rw [h]

/-- The rows of a dictionary are one for each key. -/
theorem weightOf_dict {d : Dict K M} (hn : (d.map Prod.fst).Nodup) (k : K) :
    weightOf d k = (Dict.get? d k).getD 0 := by
  induction d with
  | nil => rfl
  | cons row d ih =>
    rw [List.map_cons, List.nodup_cons] at hn
    obtain ⟨hnew, hn⟩ := hn
    by_cases h : row.1 = k
    · have hrest : weightOf d k = 0 := by
        rw [ih hn, Dict.get?_eq_none.mpr (h ▸ hnew), Option.getD_none]
      have hget : Dict.get? (row :: d) k = some row.2 := by simp [Dict.get?, Tables.lookup, h]
      unfold weightOf at hrest ⊢
      rw [List.filter_cons_of_pos (by simpa using h), List.map_cons, List.sum_cons, hrest, add_zero,
        hget, Option.getD_some]
    · have hget : Dict.get? (row :: d) k = Dict.get? d k := by simp [Dict.get?, Tables.lookup, h]
      rw [hget, ← ih hn, weightOf, List.filter_cons_of_neg (by simpa using h), weightOf]

/-- Rows that weigh for each key what the dictionary has there weigh together what its values sum up
to. -/
theorem sum_values_eq {d : Dict K M} (hn : (d.map Prod.fst).Nodup)
    (h : ∀ k, (Dict.get? d k).getD 0 = weightOf rows k) :
    (d.map Prod.snd).sum = (rows.map Prod.snd).sum := by
  have hall : ∀ rows : List (K × M), weightWhere rows (fun _ => True) = (rows.map Prod.snd).sum := by
    intro rows
    rw [weightWhere, List.filter_eq_self.mpr fun _ _ => decide_eq_true trivial]
  rw [← hall d, ← hall rows]
  apply weightWhere_congr
  intro k
  rw [weightOf_dict hn, h]

end Weights

namespace Dict

variable {K M : Type*} [DecidableEq K] [AddCommMonoid M] {d : Dict K M} {k : K} {x : M}

omit [AddCommMonoid M] in
theorem get?_map_values {V : Type*} {f : M → V} :
    get? (d.map fun item => (item.1, f item.2)) k = (get? d k).map f := by
  rw [get?_map_key, get?, Option.map_map]
  rfl

/-- What is added under a key comes to the sum of the values. -/
theorem sum_set_add (hn : (d.map Prod.fst).Nodup) :
    ((set d k ((get? d k).getD 0 + x)).map Prod.snd).sum = (d.map Prod.snd).sum + x := by
  have hsum : ((set d k ((get? d k).getD 0 + x)).map Prod.snd).sum =
      ((d ++ [(k, x)]).map Prod.snd).sum := by
    apply Weights.sum_values_eq (nodup_keys_set hn)
    intro k'
    have hd := Weights.weightOf_dict hn k'
    unfold Weights.weightOf at hd ⊢
    rw [get?_set, List.filter_append, List.map_append, List.sum_append, hd, List.filter_singleton]
    by_cases h : k = k'
    · subst h
      simp
    · simp [h]
  rw [hsum, List.map_append, List.sum_append]
  simp

end Dict

end LotusAdvise

import LotusAdvise.Foundations.Tables
import Mathlib.Data.List.Find

/-! # Dictionaries

A dictionary is the list of its items in the order in which their keys were first set. Rows
are grouped under a key by appending each to the list that is stored there.
-/

namespace LotusAdvise

abbrev Dict (K V : Type*) := List (K × V)

namespace Dict

variable {K V Row : Type*} [DecidableEq K]

/-- `d.get(k)`. -/
def get? (d : Dict K V) (k : K) : Option V := (Tables.lookup Prod.fst d k).map Prod.snd

/-- `d[k] = v`. -/
def set (d : Dict K V) (k : K) (v : V) : Dict K V := Tables.upsert Prod.fst d (k, v)

/-- `d.setdefault(key(row), []).append(row)`. -/
def push (key : Row → K) (d : Dict K (List Row)) (row : Row) : Dict K (List Row) :=
  set d (key row) ((get? d (key row)).getD [] ++ [row])

def groupBy (key : Row → K) (rows : List Row) : Dict K (List Row) := rows.foldl (push key) []

/-- `{k: v for (k, v) in items}`. -/
def ofItems (items : List (K × V)) : Dict K V := items.foldl (fun d item => set d item.1 item.2) []

variable {d : Dict K V} {k k' : K} {v v' : V} {key : Row → K} {rows : List Row}

@[simp] theorem get?_nil : get? ([] : Dict K V) k = none := rfl

theorem mem_of_get? (h : get? d k = some v) : (k, v) ∈ d := by
  obtain ⟨⟨k', v'⟩, hl, rfl⟩ := Option.map_eq_some_iff.mp h
  obtain ⟨hmem, rfl⟩ := Tables.lookup_some hl
  exact hmem

theorem get?_set : get? (set d k v) k' = if k = k' then some v else get? d k' := by
  rw [get?, set, Tables.lookup_upsert]
  split <;> rfl

@[simp] theorem get?_set_self : get? (set d k v) k = some v := by rw [get?_set, if_pos rfl]

theorem get?_set_of_ne (h : k ≠ k') : get? (set d k v) k' = get? d k' := by rw [get?_set, if_neg h]

/-- An item of an updated dictionary is the new one, or an old one under another key. -/
theorem mem_set (h : (k', v') ∈ set d k v) : k' = k ∧ v' = v ∨ k' ≠ k ∧ (k', v') ∈ d := by
  unfold set Tables.upsert at h
  split at h
  · next hnone =>
    rcases List.mem_append.mp h with h | h
    · exact .inr ⟨Tables.lookup_eq_none.mp hnone _ h, h⟩
    · exact .inl (Prod.mk.inj (List.mem_singleton.mp h))
  · obtain ⟨⟨k₀, v₀⟩, hmem, heq⟩ := List.mem_map.mp h
    split at heq
    · exact .inl (Prod.mk.inj heq.symm)
    · next hne =>
      cases heq
      exact .inr ⟨hne, hmem⟩

theorem nodup_keys_set (hn : (d.map Prod.fst).Nodup) : ((set d k v).map Prod.fst).Nodup :=
  Tables.nodup_keys_upsert hn

/-- Setting a key that is there keeps the keys as they are. -/
theorem keys_set (h : get? d k = some v') : (set d k v).map Prod.fst = d.map Prod.fst := by
  obtain ⟨item, hl, -⟩ := Option.map_eq_some_iff.mp h
  rw [set, Tables.upsert, if_neg (by simp [hl]), List.map_map]
  refine List.map_congr_left fun stored _ => ?_
  simp only [Function.comp_apply]
  split
  · next heq => exact heq.symm
  · rfl

theorem get?_of_mem (hn : (d.map Prod.fst).Nodup) (h : (k, v) ∈ d) : get? d k = some v := by
  have hl : Tables.lookup Prod.fst d k = some (k, v) := Tables.lookup_of_mem hn h
  rw [get?, hl, Option.map_some]

theorem get?_eq_none : get? d k = none ↔ k ∉ d.map Prod.fst := by
  rw [get?, Option.map_eq_none_iff, Tables.lookup_eq_none, List.mem_map]
  constructor
  · rintro h ⟨item, hitem, hk⟩
    exact h item hitem hk
  · exact fun h item hitem hk => h ⟨item, hitem, hk⟩

theorem set_of_notMem (h : k ∉ d.map Prod.fst) : set d k v = d ++ [(k, v)] := by
  have hnone : Tables.lookup Prod.fst d k = none := by
    rw [← get?_eq_none, get?, Option.map_eq_none_iff] at h
    exact h
  exact if_pos hnone

/-- Items with distinct keys are the dictionary that is made of them. -/
theorem ofItems_of_nodup {items : List (K × V)} (hn : (items.map Prod.fst).Nodup) :
    ofItems items = items := by
  induction items using List.reverseRecOn with
  | nil => rfl
  | append_singleton items item ih =>
    rw [List.map_append, List.nodup_append] at hn
    obtain ⟨hitems, -, hdisjoint⟩ := hn
    have hnew : item.1 ∉ items.map Prod.fst := by
      intro hmem
      exact hdisjoint item.1 hmem item.1 (by simp) rfl
    rw [ofItems, List.foldl_append, List.foldl_cons, List.foldl_nil]
    change set (ofItems items) item.1 item.2 = _
    rw [ih hitems, set_of_notMem hnew]

theorem nodup_keys_ofItems (items : List (K × V)) : ((ofItems items).map Prod.fst).Nodup := by
  induction items using List.reverseRecOn with
  | nil => exact List.nodup_nil
  | append_singleton items item ih =>
    rw [ofItems, List.foldl_append]
    exact nodup_keys_set ih

theorem mem_ofItems {items : List (K × V)} {item : K × V} (h : item ∈ ofItems items) :
    item ∈ items := by
  induction items using List.reverseRecOn with
  | nil => cases h
  | append_singleton items last ih =>
    rw [ofItems, List.foldl_append] at h
    rcases mem_set h with ⟨hk, hv⟩ | ⟨-, hold⟩
    · exact List.mem_append_right _ (List.mem_singleton.mpr (Prod.ext hk hv))
    · exact List.mem_append_left _ (ih hold)

/-- The dictionary of rows under their keys. -/
theorem get?_map_key {f : Row → V} :
    get? (rows.map fun row => (key row, f row)) k = (Tables.lookup key rows k).map f := by
  rw [get?, Tables.lookup, Tables.lookup, List.find?_map, Option.map_map]
  rfl

/-- Rows that a dictionary has under their own keys are found there by their keys. -/
theorem lookup_map_snd {d : Dict K Row} (h : ∀ item ∈ d, key item.2 = item.1) :
    Tables.lookup key (d.map Prod.snd) k = get? d k := by
  have hfind : d.find? (fun item => decide (key item.2 = k)) =
      d.find? fun item => decide (item.1 = k) :=
    List.find?_congr fun item hitem => by rw [h item hitem]
  rw [Tables.lookup, List.find?_map, get?, Tables.lookup]
  exact congrArg (Option.map Prod.snd) hfind

section Push

variable {groups : Dict K (List Row)}

theorem groupBy_concat (row : Row) :
    groupBy key (rows ++ [row]) = push key (groupBy key rows) row := by
  rw [groupBy, List.foldl_append]
  rfl

theorem getD_get?_push (row : Row) : (get? (push key groups row) k).getD [] =
    (get? groups k).getD [] ++ if key row = k then [row] else [] := by
  rw [push, get?_set]
  split
  · next hk => rw [hk, Option.getD_some]
  · rw [List.append_nil]

/-- The rows under a key come after those that were there, in the order in which they were read. -/
theorem getD_get?_foldl_push : (get? (rows.foldl (push key) groups) k).getD [] =
    (get? groups k).getD [] ++ rows.filter fun row => key row = k := by
  induction rows using List.reverseRecOn with
  | nil => simp
  | append_singleton rows row ih =>
    rw [List.foldl_append, List.foldl_cons, List.foldl_nil, getD_get?_push, ih, List.filter_append,
      List.append_assoc]
    by_cases hk : key row = k <;> simp [hk]

theorem getD_get?_groupBy (k : K) :
    (get? (groupBy key rows) k).getD [] = rows.filter fun row => key row = k := by
  rw [groupBy, getD_get?_foldl_push]
  rfl

theorem nodup_keys_foldl_push (hn : (groups.map Prod.fst).Nodup) :
    ((rows.foldl (push key) groups).map Prod.fst).Nodup := by
  induction rows generalizing groups with
  | nil => exact hn
  | cons row rows ih => exact ih (nodup_keys_set hn)

theorem mem_groupBy {group : List Row} (h : (k, group) ∈ groupBy key rows) :
    group = rows.filter fun row => key row = k := by
  have hempty : (([] : Dict K (List Row)).map Prod.fst).Nodup := List.nodup_nil
  have hn : ((groupBy key rows).map Prod.fst).Nodup := nodup_keys_foldl_push hempty
  rw [← getD_get?_groupBy, get?_of_mem hn h, Option.getD_some]

/-- Rows that are added under a key come to those that were there. -/
theorem flatMap_set_perm {group : List Row} (hn : (groups.map Prod.fst).Nodup)
    (h : (get? groups k).getD [] = group) (more : List Row) :
    ((set groups k (group ++ more)).flatMap Prod.snd).Perm (groups.flatMap Prod.snd ++ more) := by
  induction groups with
  | nil =>
    subst h
    simp [set, Tables.upsert, Tables.lookup]
  | cons item groups ih =>
    obtain ⟨k', group'⟩ := item
    obtain ⟨hhead, htail⟩ := List.nodup_cons.mp hn
    by_cases hk : k' = k
    · -- the key is the first one, and no later one
      subst hk
      have hfirst : get? ((k', group') :: groups) k' = some group' :=
        get?_of_mem hn List.mem_cons_self
      rw [hfirst, Option.getD_some] at h
      subst h
      have hlater : groups.map (fun stored => if stored.1 = k' then (k', group' ++ more) else stored) =
          groups := by
        refine (List.map_congr_left fun stored hstored => ?_).trans (List.map_id groups)
        rw [if_neg]
        · rfl
        · intro heq
          exact hhead (List.mem_map.mpr ⟨stored, hstored, heq⟩)
      have hset : set ((k', group') :: groups) k' (group' ++ more) = (k', group' ++ more) :: groups := by
        rw [set, Tables.upsert, if_neg (by simp [Tables.lookup]), List.map_cons, if_pos rfl, hlater]
      rw [hset, List.flatMap_cons, List.flatMap_cons, List.append_assoc, List.append_assoc]
      have hcomm : (more ++ groups.flatMap Prod.snd).Perm (groups.flatMap Prod.snd ++ more) :=
        List.perm_append_comm
      exact hcomm.append_left group'
    · have hrest : get? ((k', group') :: groups) k = get? groups k := by
        simp [get?, Tables.lookup, hk]
      rw [hrest] at h
      have hset : set ((k', group') :: groups) k (group ++ more) =
          (k', group') :: set groups k (group ++ more) := by
        have hlookup : Tables.lookup Prod.fst ((k', group') :: groups) k =
            Tables.lookup Prod.fst groups k := by
          simp [Tables.lookup, hk]
        rw [set, set, Tables.upsert, Tables.upsert, hlookup, List.map_cons, if_neg hk]
        split <;> rfl
      rw [hset, List.flatMap_cons, List.flatMap_cons, List.append_assoc]
      exact (ih htail h).append_left group'

theorem flatMap_foldl_push_perm (hn : (groups.map Prod.fst).Nodup) :
    ((rows.foldl (push key) groups).flatMap Prod.snd).Perm (groups.flatMap Prod.snd ++ rows) := by
  induction rows generalizing groups with
  | nil => simp
  | cons row rows ih =>
    rw [List.append_cons]
    exact (ih (nodup_keys_set hn)).trans ((flatMap_set_perm hn rfl [row]).append_right rows)

end Push

end Dict

end LotusAdvise

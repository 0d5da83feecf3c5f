import LotusAdvise.Foundations.Dict

/-! # Dictionaries made of items

A dictionary that is made of items has their keys in the order of their first occurrences, and under
each the value of the last one.
-/

namespace LotusAdvise.Dict

variable {α K V : Type*} [DecidableEq α] [DecidableEq K] {a : α} {as : List α}

/-- The entries of a list, each where it occurs first. -/
def firstOccurrences (as : List α) : List α :=
  as.foldl (fun seen a => if a ∈ seen then seen else seen ++ [a]) []

theorem firstOccurrences_concat (as : List α) (a : α) : firstOccurrences (as ++ [a]) =
    if a ∈ firstOccurrences as then firstOccurrences as else firstOccurrences as ++ [a] := by
  unfold firstOccurrences
  rw [List.foldl_append]
  rfl

@[simp] theorem mem_firstOccurrences : a ∈ firstOccurrences as ↔ a ∈ as := by
  induction as using List.reverseRecOn with
  | nil => rfl
  | append_singleton as b ih =>
    rw [firstOccurrences_concat, List.mem_append, List.mem_singleton]
    split_ifs with hb
    · rw [ih, or_iff_left_of_imp]
      rintro rfl
      exact ih.mp hb
    · rw [List.mem_append, List.mem_singleton, ih]

theorem ofItems_concat (items : List (K × V)) (item : K × V) :
    ofItems (items ++ [item]) = set (ofItems items) item.1 item.2 := by
  unfold ofItems
  rw [List.foldl_append]
  rfl

theorem keys_ofItems (items : List (K × V)) :
    (ofItems items).map Prod.fst = firstOccurrences (items.map Prod.fst) := by
  induction items using List.reverseRecOn with
  | nil => rfl
  | append_singleton items item ih =>
    rw [ofItems_concat, List.map_append, List.map_singleton, firstOccurrences_concat, ← ih]
    split_ifs with hitem
    · obtain ⟨stored, hstored⟩ := Option.ne_none_iff_exists'.mp
        (mt get?_eq_none.mp (not_not.mpr hitem))
      exact keys_set hstored
    · rw [set_of_notMem hitem, List.map_append, List.map_singleton]

theorem nodup_firstOccurrences (as : List α) : (firstOccurrences as).Nodup := by
  have hkeys := nodup_keys_ofItems (as.map fun a => (a, ()))
  rw [keys_ofItems, List.map_map] at hkeys
  simpa [Function.comp_def] using hkeys

theorem find?_ofItems (items : List (K × V)) (k : K) :
    get? (ofItems items) k = (items.reverse.find? fun item => item.1 = k).map Prod.snd := by
  induction items using List.reverseRecOn with
  | nil => rfl
  | append_singleton items item ih =>
    rw [ofItems_concat, get?_set, ih, List.reverse_concat, List.find?_cons]
    by_cases hitem : item.1 = k
    · rw [if_pos hitem, decide_eq_true hitem]
      rfl
    · rw [if_neg hitem, decide_eq_false hitem]

/-! ## Changed values and dropped keys -/

section Values

variable {W : Type*} {d : Dict K V} {k : K}

theorem get?_cons {item : K × V} :
    get? (item :: d) k = if item.1 = k then some item.2 else get? d k := by
  unfold get? Tables.lookup
  rw [List.find?_cons]
  split_ifs with hitem
  · rw [decide_eq_true hitem]
    rfl
  · rw [decide_eq_false hitem]

/-- Every value is changed under its key. -/
theorem get?_map_under {f : K → V → W} :
    get? (d.map fun item => (item.1, f item.1 item.2)) k = (get? d k).map (f k) := by
  induction d with
  | nil => rfl
  | cons item rest ih =>
    rw [List.map_cons, get?_cons, get?_cons, ih]
    split_ifs with hitem
    · obtain rfl : item.1 = k := hitem
      rfl
    · rfl

/-- A key keeps its place when it is set again. -/
theorem set_append_cons {e : Dict K V} {v v' : V} (hd : k ∉ d.map Prod.fst)
    (he : k ∉ e.map Prod.fst) : set (d ++ (k, v) :: e) k v' = d ++ (k, v') :: e := by
  have hfound : Tables.lookup Prod.fst (d ++ (k, v) :: e) k ≠ none := by
    intro hnone
    exact Tables.lookup_eq_none.mp hnone (k, v) (by simp) rfl
  have hothers : ∀ f : Dict K V, k ∉ f.map Prod.fst →
      f.map (fun item => if item.1 = k then (k, v') else item) = f := by
    intro f hf
    refine (List.map_congr_left fun item hitem => if_neg ?_).trans (List.map_id f)
    rintro rfl
    exact hf (List.mem_map_of_mem hitem)
  unfold set Tables.upsert
  rw [if_neg hfound, List.map_append, List.map_cons, hothers d hd, hothers e he, if_pos rfl]

/-- Only the items under some of the keys are kept. -/
theorem get?_filter_keys {p : K → Prop} [DecidablePred p] :
    get? (d.filter fun item => p item.1) k = if p k then get? d k else none := by
  induction d with
  | nil => simp
  | cons item rest ih =>
    by_cases hitem : item.1 = k
    · subst hitem
      by_cases hp : p item.1
      · simp [get?_cons, hp]
      · simp [hp, ih]
    · rw [List.filter_cons, get?_cons, if_neg hitem, ← ih]
      split
      · rw [get?_cons, if_neg hitem]
      · rfl

/-- Setting a key that is there changes the values under it. -/
theorem set_eq_map {v : V} (h : k ∈ d.map Prod.fst) :
    set d k v = d.map fun item => (item.1, if item.1 = k then v else item.2) := by
  have hfound : Tables.lookup Prod.fst d k ≠ none := by
    intro hnone
    obtain ⟨item, hitem, hk⟩ := List.mem_map.mp h
    exact Tables.lookup_eq_none.mp hnone item hitem hk
  unfold set Tables.upsert
  rw [if_neg hfound]
  refine List.map_congr_left fun item _ => ?_
  split_ifs with hitem
  · rw [hitem]
  · rfl

/-- Keys that are there are set one after the other. -/
theorem foldl_set_eq_map {keys : List K} {value : K → V} (h : ∀ k ∈ keys, k ∈ d.map Prod.fst) :
    keys.foldl (fun d k => set d k (value k)) d =
      d.map fun item => (item.1, if item.1 ∈ keys then value item.1 else item.2) := by
  induction keys generalizing d with
  | nil => simp
  | cons k keys ih =>
    obtain ⟨hk, hkeys⟩ := List.forall_mem_cons.mp h
    have hkeep : (set d k (value k)).map Prod.fst = d.map Prod.fst := by
      rw [set_eq_map hk, List.map_map]
      rfl
    rw [List.foldl_cons, ih (by rwa [hkeep]), set_eq_map hk, List.map_map]
    refine List.map_congr_left fun item _ => Prod.ext rfl ?_
    by_cases hitem : item.1 = k
    · simp [hitem]
    · simp [hitem]

/-- Values for keys that are there leave the keys as they are. -/
theorem keys_foldl_set {α : Type*} {items : List α} {key : α → K} {value : α → V}
    (h : ∀ item ∈ items, key item ∈ d.map Prod.fst) :
    (items.foldl (fun d item => set d (key item) (value item)) d).map Prod.fst =
      d.map Prod.fst := by
  induction items generalizing d with
  | nil => rfl
  | cons item items ih =>
    obtain ⟨hitem, hitems⟩ := List.forall_mem_cons.mp h
    have hkeep : (set d (key item) (value item)).map Prod.fst = d.map Prod.fst := by
      rw [set_eq_map hitem, List.map_map]
      rfl
    rw [List.foldl_cons, ih (by rwa [hkeep]), hkeep]

end Values

/-! ## Enumerations -/

/-- Entries that occur once are enumerated by the places where they are found. -/
theorem zipIdx_eq_map {ks : List K} (hn : ks.Nodup) :
    ks.zipIdx = ks.map fun k => (k, ks.idxOf k) := by
  refine List.ext_getElem (by simp) fun i hi _ => ?_
  have hi' : i < ks.length := by simpa using hi
  have hplace : ks.idxOf ks[i] = i := by
    simpa using List.get_idxOf hn ⟨i, hi'⟩
  simp [hplace]

theorem get?_ofItems_zipIdx {ks : List K} (hn : ks.Nodup) {k : K} (hk : k ∈ ks) :
    get? (ofItems ks.zipIdx) k = some (ks.idxOf k) := by
  have hkeys : (ks.zipIdx.map Prod.fst).Nodup := by
    rw [zipIdx_eq_map hn, List.map_map]
    simpa [Function.comp_def] using hn
  rw [ofItems_of_nodup hkeys]
  refine get?_of_mem hkeys ?_
  rw [zipIdx_eq_map hn]
  exact List.mem_map.mpr ⟨k, hk, rfl⟩

theorem keys_ofItems_zipIdx {ks : List K} (hn : ks.Nodup) :
    (ofItems ks.zipIdx).map Prod.fst = ks := by
  have hkeys : (ks.zipIdx.map Prod.fst).Nodup := by
    rw [zipIdx_eq_map hn, List.map_map]
    simpa [Function.comp_def] using hn
  rw [ofItems_of_nodup hkeys, zipIdx_eq_map hn, List.map_map]
  simp [Function.comp_def]

end LotusAdvise.Dict

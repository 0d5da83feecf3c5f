import LotusAdvise.Foundations.Json

/-! # What canonical forms keep

A value can be read back from its canonical form up to the order of the items of its objects. Values
that are dumped with the items in a fixed order are therefore the same when their canonical forms
are.
-/

namespace LotusAdvise.Json

variable {α : Type*} {items others : List (String × Json)}

theorem canonicalFields_eq_map (items : List (String × Json)) :
    canonicalFields items = items.map fun item => (item.1, item.2.canonical) := by
  induction items with
  | nil => rfl
  | cons item rest ih => exact congrArg ((item.1, item.2.canonical) :: ·) ih

theorem canonicalItems_eq_map (items : List Json) : canonicalItems items = items.map canonical := by
  induction items with
  | nil => rfl
  | cons item rest ih => exact congrArg (item.canonical :: ·) ih

/-- Permuted items with the same distinct keys in the same order are the same. -/
theorem eq_of_perm_of_keys_eq (hkeys : items.map Prod.fst = others.map Prod.fst)
    (hn : (items.map Prod.fst).Nodup) (hperm : items.Perm others) : items = others := by
  induction items generalizing others with
  | nil => exact (List.nil_perm.mp hperm).symm
  | cons item rest ih =>
    cases others with
    | nil => cases hkeys
    | cons other rest' =>
      obtain ⟨hkey, hrest⟩ := List.cons.inj hkeys
      obtain ⟨hnew, hn⟩ := List.nodup_cons.mp hn
      have hitem : item = other := by
        rcases List.mem_cons.mp (hperm.mem_iff.mp List.mem_cons_self) with heq | hmem
        · exact heq
        · exact absurd (List.mem_map_of_mem hmem) (hrest ▸ hnew)
      subst hitem
      rw [ih hrest hn (List.perm_cons item |>.mp hperm)]

/-- Objects with the same distinct keys in the same order have values with the same canonical forms
when they have the same themselves. -/
theorem canonical_values_eq (h : (Json.obj items).canonical = (Json.obj others).canonical)
    (hkeys : items.map Prod.fst = others.map Prod.fst) (hn : (items.map Prod.fst).Nodup) :
    items.map (fun item => item.2.canonical) = others.map fun item => item.2.canonical := by
  have hpairs : ∀ fields : List (String × Json), (canonicalFields fields).map Prod.snd =
      fields.map fun item => item.2.canonical := by
    intro fields
    rw [canonicalFields_eq_map, List.map_map]
    rfl
  have hkeys' : (canonicalFields items).map Prod.fst = (canonicalFields others).map Prod.fst := by
    rw [canonicalFields_keys, canonicalFields_keys, hkeys]
  have hperm : (canonicalFields items).Perm (canonicalFields others) := by
    refine (List.perm_insertionSort (fun a b => a.1 ≤ b.1) _).symm.trans ?_
    rw [Json.obj.inj h]
    exact List.perm_insertionSort _ _
  have heq := eq_of_perm_of_keys_eq hkeys' (canonicalFields_keys items ▸ hn) hperm
  rw [← hpairs, ← hpairs, heq]

section Stripping

variable {exclude : List String}

@[simp] theorem stripKeys_str (value : String) : (str value).stripKeys exclude = .str value := rfl

@[simp] theorem stripKeys_int (value : ℤ) : (int value).stripKeys exclude = .int value := rfl

@[simp] theorem stripKeys_arr (items : List Json) :
    (arr items).stripKeys exclude = .arr (stripKeysItems exclude items) := rfl

@[simp] theorem stripKeys_obj (items : List (String × Json)) :
    (obj items).stripKeys exclude = .obj (stripKeysFields exclude items) := rfl

@[simp] theorem stripKeysFields_nil : stripKeysFields exclude [] = [] := rfl

@[simp] theorem stripKeysFields_cons (k : String) (j : Json) (rest : List (String × Json)) :
    stripKeysFields exclude ((k, j) :: rest) =
      if k ∈ exclude then stripKeysFields exclude rest
      else (k, j.stripKeys exclude) :: stripKeysFields exclude rest := rfl

end Stripping

theorem stripKeysItems_eq_map (exclude : List String) (items : List Json) :
    stripKeysItems exclude items = items.map (stripKeys exclude) := by
  induction items with
  | nil => rfl
  | cons item rest ih => exact congrArg (item.stripKeys exclude :: ·) ih

/-- A value can be read back from the canonical form of its dump. -/
def Faithful (dump : α → Json) : Prop := ∀ a b, (dump a).canonical = (dump b).canonical → a = b

theorem faithful_str : Faithful Json.str := fun _ _ h => Json.str.inj h

theorem faithful_natCast : Faithful fun n : ℕ => Json.int n :=
  fun _ _ h => Int.ofNat.inj (Json.int.inj h)

theorem faithful_ofText? : Faithful ofText? := by
  intro a b h
  cases a <;> cases b
  · rfl
  · cases h
  · cases h
  · exact congrArg some (Json.str.inj h)

theorem Faithful.arr {dump : α → Json} (h : Faithful dump) :
    Faithful fun as : List α => Json.arr (as.map dump) := by
  intro as bs heq
  have hitems := Json.arr.inj heq
  rw [canonicalItems_eq_map, canonicalItems_eq_map, List.map_map, List.map_map] at hitems
  exact List.map_injective_iff.mpr (fun a b => h a b) hitems

theorem faithful_ofTexts : Faithful ofTexts := faithful_str.arr

end LotusAdvise.Json

import LotusAdvise.Foundations.ObjectHeaps
import LotusAdvise.PolicyPacks.StableReasons
import Mathlib.Data.List.Flatten

/-! # Stable reasons in memory

A reason is copied, and the copy is stripped in place: in every dictionary the trusted principal is
replaced by a new dictionary without the volatile fields, and then the values are stripped. The
dictionary that was replaced is left as it was.
-/

namespace LotusAdvise.PolicyPacks

open Json ObjectHeaps

/-- The values in the object that a value refers to. -/
def valuesOf (heap : Heap) (a : ℕ) : List Value :=
  match heap[a]? with
  | some (.dict items) => items.map Prod.snd
  | some (.list items) => items
  | none => []

/-- `value["trusted_principal"] = {...}`, if there is a dictionary under the key. -/
def replaceTrustedPrincipal (heap : Heap) (a : ℕ) (items : List (String × Value)) : Heap :=
  match Dict.get? items "trusted_principal" with
  | some (.ref b) =>
    match heap[b]? with
    | some (.dict fields) =>
      (heap ++ [Object.dict
        (fields.filter fun field => field.1 ∉ volatileTrustedPrincipalFields)]).set a
        (.dict (Dict.set items "trusted_principal" (.ref heap.length)))
    | _ => heap
  | _ => heap

/-- `_strip_volatile_trusted_principal_fields`. -/
def stripInPlace : ℕ → Heap → Value → Heap
  | 0, heap, _ => heap
  | _ + 1, heap, .scalar _ => heap
  | fuel + 1, heap, .ref a =>
    match heap[a]? with
    | some (.dict items) =>
      (valuesOf (replaceTrustedPrincipal heap a items) a).foldl (stripInPlace fuel)
        (replaceTrustedPrincipal heap a items)
    | some (.list items) => items.foldl (stripInPlace fuel) heap
    | none => heap

/-- `idempotency_stable_reason`: the objects afterwards, and the stripped copy. -/
def stableReasonInMemory (fuel : ℕ) (heap : Heap) (reason : Value) : Heap × Value :=
  (stripInPlace fuel (deepcopy fuel heap reason).1 (deepcopy fuel heap reason).2,
    (deepcopy fuel heap reason).2)

section Replace

variable {heap : Heap} {a : ℕ} {parts : List Part}

/-- The value under a key when the trusted principal has been replaced. -/
def replacedUnder (key : String) (j : Json) : Json :=
  if key = "trusted_principal" then dropVolatileFields j else j

/-- The parts of a dictionary without the volatile ones. -/
def keptParts (parts : List Part) : List Part :=
  parts.filter fun part => part.key ∉ volatileTrustedPrincipalFields

theorem map_item_keptParts (parts : List Part) : (keptParts parts).map Part.item =
    (parts.map Part.item).filter fun field => field.1 ∉ volatileTrustedPrincipalFields := by
  rw [List.filter_map]
  rfl

theorem map_field_keptParts (parts : List Part) : (keptParts parts).map Part.field =
    (parts.map Part.field).filter fun field => field.1 ∉ volatileTrustedPrincipalFields := by
  rw [List.filter_map]
  rfl

theorem keptParts_sublist (parts : List Part) : (keptParts parts).Sublist parts :=
  List.filter_sublist

/-- The parts of a forest without some of them are one. -/
theorem forest_keptParts (h : Forest heap parts) : Forest heap (keptParts parts) :=
  ⟨fun part hpart => h.trees part ((keptParts_sublist parts).subset hpart),
    h.apart.sublist ((keptParts_sublist parts).flatMap _)⟩

theorem dropVolatileFields_of_ne_obj {j : Json} (h : ∀ items, j ≠ .obj items) :
    dropVolatileFields j = j := by
  cases j with
  | obj items => exact (h items rfl).elim
  | _ => rfl

theorem replaceTrustedPrincipal_of_ne_obj (hforest : Forest heap parts)
    (h : ∀ part ∈ parts, part.key = "trusted_principal" → ∀ items, part.json ≠ .obj items) :
    replaceTrustedPrincipal heap a (parts.map Part.item) = heap := by
  unfold replaceTrustedPrincipal
  split
  · next b hget =>
    obtain ⟨part, hpart, hitem⟩ := List.mem_map.mp (Dict.mem_of_get? hget)
    obtain ⟨hkey, hvalue⟩ := Prod.mk.inj hitem
    have htree := hforest.trees part hpart
    have hne := h part hpart hkey
    rw [hvalue] at htree
    generalize part.json = j, part.addresses = as at htree hne
    cases htree with
    | list b parts object trees apart => rw [object]
    | dict b parts object keys trees apart => exact (hne _ rfl).elim
  · rfl

/-- The addresses of one part are exchanged for some of them and new ones. -/
theorem nodup_exchange {before old after new : List ℕ} (h : (before ++ (old ++ after)).Nodup)
    (hnew : new.Nodup) (hfree : ∀ a ∈ new, a ∈ old ∨ a ∉ before ∧ a ∉ after) :
    (before ++ (new ++ after)).Nodup := by
  rw [List.nodup_append, List.nodup_append] at h ⊢
  obtain ⟨hbefore, ⟨-, hafter, hright⟩, hleft⟩ := h
  refine ⟨hbefore, ⟨hnew, hafter, ?_⟩, ?_⟩
  · rintro a ha b hb rfl
    rcases hfree a ha with hold | ⟨-, hfree⟩
    · exact hright a hold a hb rfl
    · exact hfree hb
  · rintro a ha b hb rfl
    rcases List.mem_append.mp hb with hb | hb
    · rcases hfree a hb with hold | ⟨hfree, -⟩
      · exact hleft a ha a (List.mem_append_left _ hold) rfl
      · exact hfree ha
    · exact hleft a ha a (List.mem_append_right _ hb) rfl

theorem addressesOf_append (before after : List Part) :
    addressesOf (before ++ after) = addressesOf before ++ addressesOf after :=
  List.flatMap_append

/-- The dictionary that a trusted principal is replaced by. -/
def replacement (heap : Heap) (part : Part) (fields : List Part) : Part where
  key := part.key
  value := .ref heap.length
  json := .obj ((keptParts fields).map Part.field)
  addresses := heap.length :: addressesOf (keptParts fields)

section Exchange

variable {before after fields : List Part} {part : Part} {b : ℕ}

theorem key_notMem_others (hkeys : ((before ++ part :: after).map Part.key).Nodup) :
    part.key ∉ before.map Part.key ∧ part.key ∉ after.map Part.key := by
  rw [List.map_append, List.map_cons, List.nodup_append, List.nodup_cons] at hkeys
  obtain ⟨-, ⟨hafter, -⟩, hbefore⟩ := hkeys
  exact ⟨fun hmem => hbefore _ hmem _ List.mem_cons_self rfl, hafter⟩

theorem replaceTrustedPrincipal_of_obj (hkeys : ((before ++ part :: after).map Part.key).Nodup)
    (hkey : part.key = "trusted_principal") (hvalue : part.value = .ref b)
    (object : heap[b]? = some (.dict (fields.map Part.item))) :
    replaceTrustedPrincipal heap a ((before ++ part :: after).map Part.item) =
      (heap ++ [Object.dict ((keptParts fields).map Part.item)]).set a
        (.dict ((before ++ replacement heap part fields :: after).map Part.item)) := by
  have hitemKeys : (((before ++ part :: after).map Part.item).map Prod.fst).Nodup := by
    rw [List.map_map]
    exact hkeys
  have hget : Dict.get? ((before ++ part :: after).map Part.item) "trusted_principal" =
      some (.ref b) := by
    refine Dict.get?_of_mem hitemKeys (List.mem_map.mpr ⟨part, by simp, ?_⟩)
    rw [Part.item, hkey, hvalue]
  have hset : Dict.set ((before ++ part :: after).map Part.item) "trusted_principal"
      (.ref heap.length) = (before ++ replacement heap part fields :: after).map Part.item := by
    have hothers := key_notMem_others hkeys
    rw [← hkey, List.map_append, List.map_cons, List.map_append, List.map_cons]
    refine Dict.set_append_cons ?_ ?_
    · rw [List.map_map]
      exact hothers.1
    · rw [List.map_map]
      exact hothers.2
  simp only [replaceTrustedPrincipal, hget, object, hset, map_item_keptParts]

/-- The dictionary at the address still is a tree when its trusted principal has been replaced. -/
theorem replacement_forest (hforest : Forest heap (before ++ part :: after)) (ha : a < heap.length)
    (hapart : a ∉ addressesOf (before ++ part :: after))
    (haddresses : part.addresses = b :: addressesOf fields) (hfields : Forest heap fields)
    (hfieldKeys : (fields.map Part.key).Nodup) (object : Object) :
    Forest ((heap ++ [Object.dict ((keptParts fields).map Part.item)]).set a object)
      (before ++ replacement heap part fields :: after) := by
  have hkept : ∀ c ∈ addressesOf (keptParts fields), c ∈ part.addresses := by
    intro c hc
    rw [haddresses]
    exact List.mem_cons_of_mem b (((keptParts_sublist fields).flatMap _).subset hc)
  have hmem : ∀ c, c ∈ addressesOf (before ++ part :: after) ↔
      c ∈ addressesOf before ∨ c ∈ part.addresses ∨ c ∈ addressesOf after := by
    intro c
    rw [addressesOf_append, addressesOf_cons, List.mem_append, List.mem_append]
  have hchanges : Changes heap
      ((heap ++ [Object.dict ((keptParts fields).map Part.item)]).set a object) [a] :=
    ((Changes.append heap _).mono (List.nil_subset _)).trans (Changes.set _ a object) (by simp)
  have hothers : ∀ other ∈ before ++ part :: after,
      Tree ((heap ++ [Object.dict ((keptParts fields).map Part.item)]).set a object) other.value
        other.json other.addresses := by
    intro other hother
    refine (hforest.trees other hother).of_changes hchanges fun c hc => ?_
    rw [List.mem_singleton]
    rintro rfl
    exact hapart (mem_addressesOf.mpr ⟨other, hother, hc⟩)
  have hnew : Tree ((heap ++ [Object.dict ((keptParts fields).map Part.item)]).set a object)
      (replacement heap part fields).value (replacement heap part fields).json
      (replacement heap part fields).addresses := by
    have hconcat := Tree.concat_dict (forest_keptParts hfields)
      (hfieldKeys.sublist ((keptParts_sublist fields).map Part.key))
    refine hconcat.frame fun c hc => List.getElem?_set_ne ?_
    rintro rfl
    rcases List.mem_cons.mp hc with heq | hc
    · exact ha.ne heq
    · exact hapart ((hmem a).mpr (.inr (.inl (hkept a hc))))
  constructor
  · intro other hother
    rcases List.mem_append.mp hother with hbefore | hrest
    · exact hothers other (List.mem_append_left _ hbefore)
    · rcases List.mem_cons.mp hrest with rfl | hafter
      · exact hnew
      · exact hothers other (List.mem_append_right _ (List.mem_cons_of_mem part hafter))
  · have hold := hforest.apart
    rw [addressesOf_append, addressesOf_cons] at hold ⊢
    refine nodup_exchange hold hnew.nodup fun c hc => ?_
    rcases List.mem_cons.mp hc with rfl | hc
    · refine .inr ⟨fun hc => ?_, fun hc => ?_⟩
      · exact lt_irrefl _ (hforest.lt_length _ ((hmem _).mpr (.inl hc)))
      · exact lt_irrefl _ (hforest.lt_length _ ((hmem _).mpr (.inr (.inr hc))))
    · exact .inl (hkept c hc)

end Exchange

/-- Everything that becomes of a dictionary when its trusted principal is replaced. -/
theorem replaceTrustedPrincipal_forest (hforest : Forest heap parts)
    (hkeys : (parts.map Part.key).Nodup) (hself : heap[a]? = some (.dict (parts.map Part.item)))
    (hapart : a ∉ addressesOf parts) :
    Changes heap (replaceTrustedPrincipal heap a (parts.map Part.item)) [a] ∧
      ∃ parts', (replaceTrustedPrincipal heap a (parts.map Part.item))[a]? =
          some (.dict (parts'.map Part.item)) ∧
        Forest (replaceTrustedPrincipal heap a (parts.map Part.item)) parts' ∧
        parts'.map Part.field =
          parts.map (fun part => (part.key, replacedUnder part.key part.json)) ∧
        ∀ b ∈ addressesOf parts', b ∈ addressesOf parts ∨ heap.length ≤ b := by
  have ha : a < heap.length := (List.getElem?_eq_some_iff.mp hself).1
  by_cases hobj : ∃ part ∈ parts, part.key = "trusted_principal" ∧ ∃ items, part.json = .obj items
  · obtain ⟨part, hpart, hkey, items, hjson⟩ := hobj
    obtain ⟨before, after, rfl⟩ := List.append_of_mem hpart
    have htree := hforest.trees part hpart
    rw [hjson] at htree
    obtain ⟨b, fields, hvalue, haddresses, rfl, object, hfieldKeys, -, hfields⟩ := htree.of_obj
    rw [replaceTrustedPrincipal_of_obj hkeys hkey hvalue object]
    have hnew := replacement_forest hforest ha hapart haddresses hfields hfieldKeys
    refine ⟨((Changes.append heap _).mono (List.nil_subset _)).trans (Changes.set _ a _) (by simp),
      before ++ replacement heap part fields :: after, ?_, hnew _, ?_, ?_⟩
    · exact List.getElem?_set_self (by rw [List.length_append]; omega)
    · obtain ⟨hbefore, hafter⟩ := key_notMem_others hkeys
      have hothers : ∀ others : List Part, part.key ∉ others.map Part.key →
          others.map Part.field =
            others.map fun other => (other.key, replacedUnder other.key other.json) := by
        intro others hnot
        refine List.map_congr_left fun other hother => ?_
        have hne : other.key ≠ "trusted_principal" := by
          rw [← hkey]
          exact fun heq => hnot (List.mem_map.mpr ⟨other, hother, heq⟩)
        rw [replacedUnder, if_neg hne]
        rfl
      have hself : (replacement heap part fields).field =
          (part.key, replacedUnder part.key part.json) := by
        rw [replacedUnder, if_pos hkey, hjson, dropVolatileFields, ← map_field_keptParts]
        rfl
      rw [List.map_append, List.map_cons, List.map_append, List.map_cons, hothers before hbefore,
        hothers after hafter, hself]
    · intro c hc
      rw [addressesOf_append, addressesOf_cons, List.mem_append, List.mem_append] at hc ⊢
      rcases hc with hc | hc | hc
      · exact .inl (.inl hc)
      · rcases List.mem_cons.mp hc with rfl | hc
        · exact .inr le_rfl
        · refine .inl (.inr (.inl ?_))
          rw [haddresses]
          exact List.mem_cons_of_mem b (((keptParts_sublist fields).flatMap _).subset hc)
      · exact .inl (.inr (.inr hc))
  · have hne : ∀ part ∈ parts, part.key = "trusted_principal" → ∀ items, part.json ≠ .obj items :=
      fun part hpart hkey items hjson => hobj ⟨part, hpart, hkey, items, hjson⟩
    rw [replaceTrustedPrincipal_of_ne_obj hforest hne]
    refine ⟨.refl heap _, parts, hself, hforest, List.map_congr_left fun part hpart => ?_,
      fun b hb => .inl hb⟩
    unfold replacedUnder
    split_ifs with hkey
    · rw [dropVolatileFields_of_ne_obj (hne part hpart hkey)]
      rfl
    · rfl

end Replace

section Strip

variable {heap heap' : Heap} {a : ℕ} {parts parts' : List Part}

theorem depthFields_filter_le (p : String × Json → Bool) (fields : JsonObject) :
    depthFields (fields.filter p) ≤ depthFields fields := by
  induction fields with
  | nil => exact le_rfl
  | cons field rest ih =>
    rw [List.filter_cons]
    split
    · exact max_le_max le_rfl ih
    · exact ih.trans (le_max_right _ _)

theorem depth_replacedUnder (key : String) (j : Json) : (replacedUnder key j).depth ≤ j.depth := by
  unfold replacedUnder
  split_ifs
  · cases j with
    | obj items => exact Nat.succ_le_succ (depthFields_filter_le _ items)
    | _ => exact le_rfl
  · exact le_rfl

theorem stripVolatile_replacedUnder (key : String) (j : Json) :
    stripVolatile (replacedUnder key j) = stripUnder key j := by
  unfold replacedUnder stripUnder
  split_ifs
  · exact stripVolatile_dropVolatileFields j
  · rfl

theorem map_value_of_map_item (h : parts'.map Part.item = parts.map Part.item) :
    parts'.map Part.value = parts.map Part.value := by
  have hsnd := congrArg (List.map Prod.snd) h
  rwa [List.map_map, List.map_map] at hsnd

/-- An object that is not in the trees of its parts is not in those that they are rewritten to. -/
theorem notMem_rewritten (ha : a < heap.length) (hself : a ∉ addressesOf parts)
    (h : ∀ b ∈ addressesOf parts', b ∈ addressesOf parts ∨ heap.length ≤ b) :
    a ∉ addressesOf parts' :=
  fun hmem => (h a hmem).elim hself ha.not_ge

theorem stripInPlace_scalar {j : Json} {fuel : ℕ} (noArr : ∀ items, j ≠ .arr items)
    (noObj : ∀ items, j ≠ .obj items) :
    Changes heap (stripInPlace fuel heap (.scalar j)) [] ∧
      ∃ as', Tree (stripInPlace fuel heap (.scalar j)) (.scalar j) (stripVolatile j) as' ∧
        ∀ b ∈ as', b ∈ [] ∨ heap.length ≤ b := by
  have hstep : stripInPlace fuel heap (.scalar j) = heap := by cases fuel <;> rfl
  rw [hstep, stripVolatile_of_scalar noArr noObj]
  exact ⟨.refl heap _, [], .scalar j noArr noObj, by simp⟩

/-- A list is stripped by stripping its items. -/
theorem stripInPlace_list {fuel : ℕ} (object : heap[a]? = some (.list (parts.map Part.value)))
    (hforest : Forest heap parts) (hself : a ∉ addressesOf parts)
    (hparts : ∀ part ∈ parts, Rewrites (stripInPlace fuel) stripVolatile part.json) :
    Changes heap (stripInPlace (fuel + 1) heap (.ref a)) (a :: addressesOf parts) ∧
      ∃ as', Tree (stripInPlace (fuel + 1) heap (.ref a)) (.ref a)
          (stripVolatile (.arr (parts.map Part.json))) as' ∧
        ∀ b ∈ as', b ∈ a :: addressesOf parts ∨ heap.length ≤ b := by
  have ha : a < heap.length := (List.getElem?_eq_some_iff.mp object).1
  have hstep : stripInPlace (fuel + 1) heap (.ref a) =
      (parts.map Part.value).foldl (stripInPlace fuel) heap := by
    simp only [stripInPlace, object]
  obtain ⟨hchanges, parts', hforest', hitems, hfields, haddresses⟩ :=
    foldl_rewrites hforest hparts
  have hjson : stripVolatile (.arr (parts.map Part.json)) = .arr (parts'.map Part.json) := by
    have hsnd := congrArg (List.map Prod.snd) hfields
    rw [List.map_map, List.map_map] at hsnd
    rw [stripVolatile, stripVolatileItems_eq_map, List.map_map]
    exact congrArg Json.arr hsnd.symm
  rw [hstep, hjson]
  refine ⟨hchanges.mono (List.subset_cons_self _ _), _, .list a parts' ?_ hforest'.trees ?_, ?_⟩
  · rw [map_value_of_map_item hitems]
    exact (hchanges.frame a ha hself).trans object
  · exact List.nodup_cons.mpr ⟨notMem_rewritten ha hself haddresses, hforest'.apart⟩
  · intro b hb
    rcases List.mem_cons.mp hb with rfl | hb
    · exact .inl List.mem_cons_self
    · exact (haddresses b hb).imp_left (List.mem_cons_of_mem a)

/-- A dictionary is stripped by replacing its trusted principal and stripping its values. -/
theorem stripInPlace_dict {fuel : ℕ} (object : heap[a]? = some (.dict (parts.map Part.item)))
    (hkeys : (parts.map Part.key).Nodup) (hforest : Forest heap parts)
    (hself : a ∉ addressesOf parts)
    (hparts : ∀ part ∈ parts, ∀ j, j.depth ≤ part.json.depth →
      Rewrites (stripInPlace fuel) stripVolatile j) :
    Changes heap (stripInPlace (fuel + 1) heap (.ref a)) (a :: addressesOf parts) ∧
      ∃ as', Tree (stripInPlace (fuel + 1) heap (.ref a)) (.ref a)
          (stripVolatile (.obj (parts.map Part.field))) as' ∧
        ∀ b ∈ as', b ∈ a :: addressesOf parts ∨ heap.length ≤ b := by
  have ha : a < heap.length := (List.getElem?_eq_some_iff.mp object).1
  obtain ⟨hreplaced, parts', object', hforest', hfields', haddresses'⟩ :=
    replaceTrustedPrincipal_forest hforest hkeys object hself
  have hstep : stripInPlace (fuel + 1) heap (.ref a) =
      (parts'.map Part.value).foldl (stripInPlace fuel)
        (replaceTrustedPrincipal heap a (parts.map Part.item)) := by
    simp only [stripInPlace, object, valuesOf, object', List.map_map]
    rfl
  generalize replaceTrustedPrincipal heap a (parts.map Part.item) = replaced at *
  have hself' := notMem_rewritten ha hself haddresses'
  have hparts' : ∀ part ∈ parts', Rewrites (stripInPlace fuel) stripVolatile part.json := by
    intro part hpart
    have hfield := List.mem_map_of_mem (f := Part.field) hpart
    rw [hfields'] at hfield
    obtain ⟨old, hold, heq⟩ := List.mem_map.mp hfield
    have hjson : replacedUnder old.key old.json = part.json := congrArg Prod.snd heq
    exact hparts old hold part.json (hjson ▸ depth_replacedUnder old.key old.json)
  obtain ⟨hchanges, parts'', hforest'', hitems, hfields, haddresses⟩ :=
    foldl_rewrites hforest' hparts'
  have hjson : stripVolatile (.obj (parts.map Part.field)) = .obj (parts''.map Part.field) := by
    rw [stripVolatile, stripVolatileFields_eq_map, hfields, List.map_map]
    have hmap : parts'.map (fun part => (part.key, stripVolatile part.json)) =
        (parts'.map Part.field).map fun field => (field.1, stripVolatile field.2) := by
      rw [List.map_map]
      rfl
    rw [hmap, hfields', List.map_map]
    refine congrArg Json.obj (List.map_congr_left fun part _ => Prod.ext rfl ?_)
    exact (stripVolatile_replacedUnder part.key part.json).symm
  have hkeys' : parts''.map Part.key = parts.map Part.key := by
    have hfst := congrArg (List.map Prod.fst) hitems
    have hfst' := congrArg (List.map Prod.fst) hfields'
    rw [List.map_map, List.map_map] at hfst hfst'
    exact hfst.trans hfst'
  rw [hstep, hjson]
  refine ⟨(hreplaced.mono (by simp)).trans hchanges fun b hb =>
    (haddresses' b hb).imp_left (List.mem_cons_of_mem a), _,
    .dict a parts'' ?_ (hkeys' ▸ hkeys) hforest''.trees ?_, ?_⟩
  · rw [hitems]
    exact (hchanges.frame a (ha.trans_le hreplaced.grows) hself').trans object'
  · have hself'' := notMem_rewritten (ha.trans_le hreplaced.grows) hself' haddresses
    exact List.nodup_cons.mpr ⟨hself'', hforest''.apart⟩
  · intro b hb
    rcases List.mem_cons.mp hb with rfl | hb
    · exact .inl List.mem_cons_self
    · rcases haddresses b hb with hmem | hnew
      · exact (haddresses' b hmem).imp_left (List.mem_cons_of_mem a)
      · exact .inr (hreplaced.grows.trans hnew)

/-- Stripping a tree in place strips the value that it holds. -/
theorem stripInPlace_rewrites {j : Json} {fuel : ℕ} (hfuel : j.depth ≤ fuel) :
    Rewrites (stripInPlace fuel) stripVolatile j := by
  induction fuel generalizing j with
  | zero =>
    intro heap value as htree
    cases htree with
    | scalar j noArr noObj => exact stripInPlace_scalar noArr noObj
    | list a parts object trees apart => simp [Json.depth] at hfuel
    | dict a parts object keys trees apart => simp [Json.depth] at hfuel
  | succ fuel ih =>
    intro heap value as htree
    cases htree with
    | scalar j noArr noObj => exact stripInPlace_scalar noArr noObj
    | list a parts object trees apart =>
      obtain ⟨hself, hapart⟩ := List.nodup_cons.mp apart
      refine stripInPlace_list object ⟨trees, hapart⟩ hself fun part hpart => ih ?_
      have hdepth := depth_le_depthItems (List.mem_map_of_mem (f := Part.json) hpart)
      rw [Json.depth] at hfuel
      omega
    | dict a parts object keys trees apart =>
      obtain ⟨hself, hapart⟩ := List.nodup_cons.mp apart
      refine stripInPlace_dict object keys ⟨trees, hapart⟩ hself fun part hpart j hj => ih ?_
      have hdepth := depth_le_depthFields (List.mem_map_of_mem (f := Part.field) hpart)
      rw [Json.depth] at hfuel
      exact hj.trans (le_trans hdepth (by omega))

end Strip

/-! ## Idempotency and trace noise -/

/-- The same stands at every path, up to a comparison of what stands there: Python takes some
scalars of different kinds for the same. -/
def EqualBy (same : JsonNode → JsonNode → Prop) (a b : Json) : Prop :=
  ∀ path, Option.Rel same (a.nodeAt path) (b.nodeAt path)

theorem EqualBy.of_sameNodes {same : JsonNode → JsonNode → Prop} {a b c d : Json}
    (h : EqualBy same a b) (hac : SameNodes a c) (hbd : SameNodes b d) : EqualBy same c d := by
  intro path
  rw [← hac path, ← hbd path]
  exact h path

theorem equalBy_stable_iff {same : JsonNode → JsonNode → Prop} {r s : JsonObject} :
    EqualBy same (.obj (idempotencyStableReason r)) (.obj (idempotencyStableReason s)) ↔
      ∃ kept kept', Deletes (.obj r) kept ∧ Deletes (.obj s) kept' ∧ EqualBy same kept kept' := by
  constructor
  · exact fun h => ⟨_, _, deletes_idempotencyStableReason r, deletes_idempotencyStableReason s, h⟩
  · rintro ⟨kept, kept', hr, hs, h⟩
    exact h.of_sameNodes (hr.unique (deletes_idempotencyStableReason r))
      (hs.unique (deletes_idempotencyStableReason s))

/-- The copy is stripped, and the objects that were there are left as they are. -/
theorem stableReasonInMemory_tree {heap : Heap} {value : Value} {r : JsonObject} {as : List ℕ}
    {fuel : ℕ} (htree : Tree heap value (.obj r) as) (hfuel : (Json.obj r).depth ≤ fuel) :
    (∀ a < heap.length, (stableReasonInMemory fuel heap value).1[a]? = heap[a]?) ∧
      ∃ as', Tree (stableReasonInMemory fuel heap value).1 (stableReasonInMemory fuel heap value).2
        (.obj (idempotencyStableReason r)) as' ∧ ∀ a ∈ as', heap.length ≤ a := by
  obtain ⟨hcopied, copied, hcopy, hnew⟩ := deepcopy_copies hfuel heap value as htree
  obtain ⟨hstripped, stripped, htree', haddresses⟩ :=
    stripInPlace_rewrites hfuel _ _ copied hcopy
  have hchanges := hcopied.trans hstripped fun a ha => .inr (hnew a ha)
  refine ⟨fun a ha => hchanges.frame a ha (List.not_mem_nil), stripped, htree', fun a ha => ?_⟩
  exact (haddresses a ha).elim (hnew a) hcopied.grows.trans

/-- Reasons are stable alike exactly if they are equal without what traces a request, a stable
reason is stable itself, and making one leaves the reason in memory as it was. -/
theorem idempotencyStableReason_forgets_trace :
    (∀ r s : JsonObject, (Json.obj r).DistinctKeys → (Json.obj s).DistinctKeys →
      ((Json.obj (idempotencyStableReason r)).canonical =
          (Json.obj (idempotencyStableReason s)).canonical ↔
        ∃ kept, Deletes (.obj r) kept ∧ Deletes (.obj s) kept)) ∧
    (∀ (same : JsonNode → JsonNode → Prop) (r s : JsonObject),
      EqualBy same (.obj (idempotencyStableReason r)) (.obj (idempotencyStableReason s)) ↔
        ∃ kept kept', Deletes (.obj r) kept ∧ Deletes (.obj s) kept' ∧ EqualBy same kept kept') ∧
    (∀ r, idempotencyStableReason (idempotencyStableReason r) = idempotencyStableReason r) ∧
    ∀ heap value r as fuel, Tree heap value (.obj r) as → (Json.obj r).depth ≤ fuel →
      (∀ a < heap.length, (stableReasonInMemory fuel heap value).1[a]? = heap[a]?) ∧
        ∃ as', Tree (stableReasonInMemory fuel heap value).1
          (stableReasonInMemory fuel heap value).2 (.obj (idempotencyStableReason r)) as' ∧
          ∀ a ∈ as', heap.length ≤ a :=
  ⟨fun _ _ hr hs => stable_eq_iff hr hs, fun _ _ _ => equalBy_stable_iff,
    idempotencyStableReason_idem,
    fun _ _ _ _ _ htree hfuel => stableReasonInMemory_tree htree hfuel⟩

namespace Sample

/-- A reason that was given in a traced request. -/
def tracedReason (traceId : String) : JsonObject :=
  [("trusted_principal", .obj [("role", .str "POLICY_ADMIN"), ("trace_id", .str traceId)])]

def tracedParts (traceId : String) : List Part :=
  [⟨"role", .scalar (.str "POLICY_ADMIN"), .str "POLICY_ADMIN", []⟩,
    ⟨"trace_id", .scalar (.str traceId), .str traceId, []⟩]

def tracedHeap (traceId : String) : Heap :=
  [.dict ((tracedParts traceId).map Part.item), .dict [("trusted_principal", .ref 0)]]

theorem tracedReason_distinct (traceId : String) :
    (Json.obj (tracedReason traceId)).DistinctKeys := by
  refine distinctKeys_obj (List.nodup_singleton _)
    (List.forall_mem_singleton.mpr (distinctKeys_obj ?_ ?_))
  · exact (by decide : ["role", "trace_id"].Nodup)
  · intro item hitem
    rcases List.mem_pair.mp hitem with rfl | rfl
    · exact distinctKeys_str _
    · exact distinctKeys_str _

theorem tracedReason_tree (traceId : String) :
    Tree (tracedHeap traceId) (.ref 1) (.obj (tracedReason traceId)) [1, 0] := by
  have hprincipal : Tree (tracedHeap traceId) (.ref 0) (.obj ((tracedParts traceId).map Part.field))
      [0] := by
    refine .dict 0 (tracedParts traceId) rfl (by decide : ["role", "trace_id"].Nodup) ?_
      (List.nodup_singleton 0)
    intro part hpart
    rcases List.mem_pair.mp hpart with rfl | rfl
    · exact .scalar _ (by simp) (by simp)
    · exact .scalar _ (by simp) (by simp)
  exact .dict 1
    [⟨"trusted_principal", .ref 0, .obj ((tracedParts traceId).map Part.field), [0]⟩] rfl
    (List.nodup_singleton _) (List.forall_mem_singleton.mpr hprincipal) (by decide : [1, 0].Nodup)

end Sample

/-- Two requests with different traces give the same stable reason. -/
theorem idempotencyStableReason_forgets_trace_retried :
    (Json.obj (idempotencyStableReason (Sample.tracedReason "trace-1"))).canonical =
        (Json.obj (idempotencyStableReason (Sample.tracedReason "trace-2"))).canonical ∧
      (stableReasonInMemory 2 (Sample.tracedHeap "trace-1") (.ref 1)).1[0]? =
        (Sample.tracedHeap "trace-1")[0]? := by
  obtain ⟨hiff, -, -, hmemory⟩ := idempotencyStableReason_forgets_trace
  constructor
  · exact (hiff _ _ (Sample.tracedReason_distinct _) (Sample.tracedReason_distinct _)).mpr
      ⟨_, deletes_stripVolatile _, deletes_stripVolatile (.obj (Sample.tracedReason "trace-2"))⟩
  · exact (hmemory _ _ _ _ 2 (Sample.tracedReason_tree "trace-1") (by decide)).1 0 (by decide)

end LotusAdvise.PolicyPacks

import LotusAdvise.Foundations.Json
import Mathlib.Data.List.Nodup
import Mathlib.Data.Nat.Notation

/-! # Objects in memory

Lists and dictionaries are objects that are changed in place, and a value is a scalar or a reference
to an object. A JSON value is held by a tree of objects, none of which occurs twice. A step that
changes nothing but the objects of one tree leaves all other trees as they are, so that what it does
to each of several trees it does to all of them one after the other.
-/

namespace LotusAdvise

namespace Json

mutual

/-- How many arrays and objects are inside one another. -/
def depth : Json → ℕ
  | .arr items => depthItems items + 1
  | .obj items => depthFields items + 1
  | _ => 0

def depthItems : List Json → ℕ
  | [] => 0
  | j :: js => max j.depth (depthItems js)

def depthFields : List (String × Json) → ℕ
  | [] => 0
  | (_, j) :: rest => max j.depth (depthFields rest)

end

theorem depth_le_depthItems {j : Json} {js : List Json} (h : j ∈ js) : j.depth ≤ depthItems js := by
  induction js with
  | nil => cases h
  | cons first rest ih =>
    rw [depthItems]
    rcases List.mem_cons.mp h with rfl | h
    · exact le_max_left _ _
    · exact (ih h).trans (le_max_right _ _)

theorem depth_le_depthFields {field : String × Json} {fields : List (String × Json)}
    (h : field ∈ fields) : field.2.depth ≤ depthFields fields := by
  induction fields with
  | nil => cases h
  | cons first rest ih =>
    rw [depthFields]
    rcases List.mem_cons.mp h with rfl | h
    · exact le_max_left _ _
    · exact (ih h).trans (le_max_right _ _)

end Json

namespace ObjectHeaps

inductive Value where
  | scalar (json : Json)
  | ref (address : ℕ)

inductive Object where
  | list (items : List Value)
  | dict (items : List (String × Value))

/-- The objects in the order of their creation: an address is the place of an object. -/
abbrev Heap := List Object

/-- A value in an object, with its key if the object is a dictionary, the JSON value that it holds
and the addresses of the objects that hold it. -/
structure Part where
  key : String
  value : Value
  json : Json
  addresses : List ℕ

def Part.item (part : Part) : String × Value := (part.key, part.value)

def Part.field (part : Part) : String × Json := (part.key, part.json)

def addressesOf (parts : List Part) : List ℕ := parts.flatMap Part.addresses

/-- The value holds a JSON value in the objects at the addresses, each of which occurs once. -/
inductive Tree (heap : Heap) : Value → Json → List ℕ → Prop where
  | scalar (j : Json) (noArr : ∀ items, j ≠ .arr items) (noObj : ∀ items, j ≠ .obj items) :
    Tree heap (.scalar j) j []
  | list (a : ℕ) (parts : List Part) (object : heap[a]? = some (.list (parts.map Part.value)))
    (trees : ∀ part ∈ parts, Tree heap part.value part.json part.addresses)
    (apart : (a :: addressesOf parts).Nodup) :
    Tree heap (.ref a) (.arr (parts.map Part.json)) (a :: addressesOf parts)
  | dict (a : ℕ) (parts : List Part) (object : heap[a]? = some (.dict (parts.map Part.item)))
    (keys : (parts.map Part.key).Nodup)
    (trees : ∀ part ∈ parts, Tree heap part.value part.json part.addresses)
    (apart : (a :: addressesOf parts).Nodup) :
    Tree heap (.ref a) (.obj (parts.map Part.field)) (a :: addressesOf parts)

/-- Several trees that have no object in common. -/
structure Forest (heap : Heap) (parts : List Part) : Prop where
  trees : ∀ part ∈ parts, Tree heap part.value part.json part.addresses
  apart : (addressesOf parts).Nodup

/-- Of the objects that were there, none but those at the addresses are changed. -/
structure Changes (heap heap' : Heap) (owned : List ℕ) : Prop where
  grows : heap.length ≤ heap'.length
  frame : ∀ a < heap.length, a ∉ owned → heap'[a]? = heap[a]?

variable {heap heap' heap'' : Heap} {value : Value} {j : Json} {as bs owned : List ℕ}
  {parts : List Part} {part : Part} {a : ℕ}

@[simp] theorem addressesOf_nil : addressesOf [] = [] := rfl

@[simp] theorem addressesOf_cons : addressesOf (part :: parts) =
    part.addresses ++ addressesOf parts := List.flatMap_cons

theorem mem_addressesOf : a ∈ addressesOf parts ↔ ∃ part ∈ parts, a ∈ part.addresses :=
  List.mem_flatMap

namespace Tree

theorem nodup (h : Tree heap value j as) : as.Nodup := by
  cases h with
  | scalar => exact List.nodup_nil
  | list a parts object trees apart => exact apart
  | dict a parts object keys trees apart => exact apart

theorem lt_length (h : Tree heap value j as) : ∀ a ∈ as, a < heap.length := by
  induction h with
  | scalar => simp
  | list a parts object trees apart ih =>
    intro b hb
    rcases List.mem_cons.mp hb with rfl | hb
    · exact (List.getElem?_eq_some_iff.mp object).1
    · obtain ⟨part, hpart, hb⟩ := mem_addressesOf.mp hb
      exact ih part hpart b hb
  | dict a parts object keys trees apart ih =>
    intro b hb
    rcases List.mem_cons.mp hb with rfl | hb
    · exact (List.getElem?_eq_some_iff.mp object).1
    · obtain ⟨part, hpart, hb⟩ := mem_addressesOf.mp hb
      exact ih part hpart b hb

/-- A tree is still there when none of its objects has changed. -/
theorem frame (h : Tree heap value j as) (hsame : ∀ a ∈ as, heap'[a]? = heap[a]?) :
    Tree heap' value j as := by
  induction h with
  | scalar j noArr noObj => exact .scalar j noArr noObj
  | list a parts object trees apart ih =>
    have hself : heap'[a]? = heap[a]? := hsame a List.mem_cons_self
    refine .list a parts (hself.trans object) (fun part hpart => ih part hpart fun b hb => ?_) apart
    exact hsame b (List.mem_cons_of_mem a (mem_addressesOf.mpr ⟨part, hpart, hb⟩))
  | dict a parts object keys trees apart ih =>
    have hself : heap'[a]? = heap[a]? := hsame a List.mem_cons_self
    refine .dict a parts (hself.trans object) keys
      (fun part hpart => ih part hpart fun b hb => ?_) apart
    exact hsame b (List.mem_cons_of_mem a (mem_addressesOf.mpr ⟨part, hpart, hb⟩))

theorem of_changes (h : Tree heap value j as) (hchanges : Changes heap heap' owned)
    (hapart : ∀ a ∈ as, a ∉ owned) : Tree heap' value j as :=
  h.frame fun a ha => hchanges.frame a (h.lt_length a ha) (hapart a ha)

end Tree

theorem Changes.refl (heap : Heap) (owned : List ℕ) : Changes heap heap owned :=
  ⟨le_rfl, fun _ _ _ => rfl⟩

theorem Changes.mono (h : Changes heap heap' bs) (hsub : bs ⊆ owned) : Changes heap heap' owned :=
  ⟨h.grows, fun a ha howned => h.frame a ha fun hmem => howned (hsub hmem)⟩

/-- The second step may also change what the first one has created. -/
theorem Changes.trans (h : Changes heap heap' owned) (h' : Changes heap' heap'' bs)
    (hbs : ∀ a ∈ bs, a ∈ owned ∨ heap.length ≤ a) : Changes heap heap'' owned := by
  refine ⟨h.grows.trans h'.grows, fun a ha howned => ?_⟩
  have hfree : a ∉ bs := fun hmem => (hbs a hmem).elim howned ha.not_ge
  exact (h'.frame a (ha.trans_le h.grows) hfree).trans (h.frame a ha howned)

theorem Changes.append (heap created : Heap) : Changes heap (heap ++ created) [] := by
  refine ⟨by simp, fun a ha _ => ?_⟩
  rw [List.getElem?_append_left ha]

theorem Changes.set (heap : Heap) (a : ℕ) (object : Object) :
    Changes heap (heap.set a object) [a] := by
  refine ⟨by rw [List.length_set], fun b _ hb => List.getElem?_set_ne ?_⟩
  rintro rfl
  exact hb (List.mem_singleton_self _)

namespace Forest

theorem lt_length (h : Forest heap parts) : ∀ a ∈ addressesOf parts, a < heap.length := by
  intro a ha
  obtain ⟨part, hpart, ha⟩ := mem_addressesOf.mp ha
  exact (h.trees part hpart).lt_length a ha

theorem of_changes (h : Forest heap parts) (hchanges : Changes heap heap' owned)
    (hapart : ∀ a ∈ addressesOf parts, a ∉ owned) : Forest heap' parts := by
  refine ⟨fun part hpart => (h.trees part hpart).of_changes hchanges fun a ha => ?_, h.apart⟩
  exact hapart a (mem_addressesOf.mpr ⟨part, hpart, ha⟩)

theorem tail (h : Forest heap (part :: parts)) : Forest heap parts :=
  ⟨fun other hother => h.trees other (List.mem_cons_of_mem part hother),
    (List.nodup_append.mp h.apart).2.1⟩

end Forest

/-- The object that holds a dictionary, and the forest of its values. -/
theorem Tree.of_obj {fields : List (String × Json)} (h : Tree heap value (.obj fields) as) :
    ∃ a parts, value = .ref a ∧ as = a :: addressesOf parts ∧ fields = parts.map Part.field ∧
      heap[a]? = some (.dict (parts.map Part.item)) ∧ (parts.map Part.key).Nodup ∧
      a ∉ addressesOf parts ∧ Forest heap parts := by
  cases h with
  | scalar j noArr noObj => exact (noObj fields rfl).elim
  | dict a parts object keys trees apart =>
    obtain ⟨hself, hapart⟩ := List.nodup_cons.mp apart
    exact ⟨a, parts, rfl, rfl, rfl, object, keys, hself, trees, hapart⟩

/-! ## Loops -/

/-- What a step makes of any tree that holds the JSON value: it changes only the objects of the tree
and those that it creates. -/
def Rewrites (step : Heap → Value → Heap) (rewrite : Json → Json) (j : Json) : Prop :=
  ∀ heap value as, Tree heap value j as →
    Changes heap (step heap value) as ∧
      ∃ as', Tree (step heap value) value (rewrite j) as' ∧ ∀ a ∈ as', a ∈ as ∨ heap.length ≤ a

/-- A step that is repeated for each of several trees rewrites all of them. -/
theorem foldl_rewrites {step : Heap → Value → Heap} {rewrite : Json → Json}
    (hparts : Forest heap parts) (hstep : ∀ part ∈ parts, Rewrites step rewrite part.json) :
    Changes heap ((parts.map Part.value).foldl step heap) (addressesOf parts) ∧
      ∃ parts', Forest ((parts.map Part.value).foldl step heap) parts' ∧
        parts'.map Part.item = parts.map Part.item ∧
        parts'.map Part.field = parts.map (fun part => (part.key, rewrite part.json)) ∧
        ∀ a ∈ addressesOf parts', a ∈ addressesOf parts ∨ heap.length ≤ a := by
  induction parts generalizing heap with
  | nil =>
    exact ⟨.refl heap _, [], ⟨by simp, by simp⟩, rfl, rfl, by simp⟩
  | cons part parts ih =>
    obtain ⟨hstep, hsteps⟩ := List.forall_mem_cons.mp hstep
    obtain ⟨hnodup, hrest, hdisjoint⟩ := List.nodup_append.mp (addressesOf_cons ▸ hparts.apart)
    have htree := hparts.trees part List.mem_cons_self
    obtain ⟨hchanges, as', htree', has'⟩ := hstep heap part.value part.addresses htree
    have hfree : ∀ a ∈ addressesOf parts, a ∉ part.addresses :=
      fun a ha hpart => hdisjoint a hpart a ha rfl
    obtain ⟨hchanges', parts', hforest, hitems, hfields, haddresses⟩ :=
      ih (hparts.tail.of_changes hchanges hfree) hsteps
    -- the rest of the loop leaves the tree of the first part alone
    have hkept : ∀ a ∈ as', a ∉ addressesOf parts := by
      intro a ha hmem
      rcases has' a ha with hpart | hnew
      · exact hfree a hmem hpart
      · exact (hparts.tail.lt_length a hmem).not_ge hnew
    have hfirst := htree'.of_changes hchanges' hkept
    have hapart : ∀ a ∈ as', ∀ b ∈ addressesOf parts', a ≠ b := by
      rintro a ha b hb rfl
      rcases haddresses a hb with hmem | hnew
      · exact hkept a ha hmem
      · exact (htree'.lt_length a ha).not_ge hnew
    refine ⟨?_, ⟨part.key, part.value, rewrite part.json, as'⟩ :: parts', ⟨?_, ?_⟩, ?_, ?_, ?_⟩
    · refine (hchanges.mono (by simp)).trans hchanges' fun a ha => .inl ?_
      exact addressesOf_cons ▸ List.mem_append_right _ ha
    · exact List.forall_mem_cons.mpr ⟨hfirst, hforest.trees⟩
    · exact List.nodup_append.mpr ⟨htree'.nodup, hforest.apart, hapart⟩
    · exact congrArg (part.item :: ·) hitems
    · exact congrArg ((part.key, rewrite part.json) :: ·) hfields
    · intro a ha
      rw [addressesOf_cons, List.mem_append] at ha ⊢
      rcases ha with ha | ha
      · exact (has' a ha).imp_left .inl
      · rcases haddresses a ha with hmem | hnew
        · exact .inl (.inr hmem)
        · exact .inr (hchanges.grows.trans hnew)

/-! ## Copies -/

section Copies

variable (copy : Heap → Value → Heap × Value)

/-- The values are copied one after the other. -/
def copyAll : Heap → List Value → Heap × List Value
  | heap, [] => (heap, [])
  | heap, value :: values =>
    ((copyAll (copy heap value).1 values).1,
      (copy heap value).2 :: (copyAll (copy heap value).1 values).2)

end Copies

/-- `copy.deepcopy`, for values in which no object occurs twice. -/
def deepcopy : ℕ → Heap → Value → Heap × Value
  | 0, heap, value => (heap, value)
  | _ + 1, heap, .scalar j => (heap, .scalar j)
  | fuel + 1, heap, .ref a =>
    match heap[a]? with
    | none => (heap, .ref a)
    | some (.list items) =>
      ((copyAll (deepcopy fuel) heap items).1 ++ [.list (copyAll (deepcopy fuel) heap items).2],
        .ref (copyAll (deepcopy fuel) heap items).1.length)
    | some (.dict items) =>
      ((copyAll (deepcopy fuel) heap (items.map Prod.snd)).1 ++
          [.dict ((items.map Prod.fst).zip
            (copyAll (deepcopy fuel) heap (items.map Prod.snd)).2)],
        .ref (copyAll (deepcopy fuel) heap (items.map Prod.snd)).1.length)

/-- A copy of any tree that holds the JSON value is a tree of new objects. -/
def Copies (copy : Heap → Value → Heap × Value) (j : Json) : Prop :=
  ∀ heap value as, Tree heap value j as →
    Changes heap (copy heap value).1 [] ∧
      ∃ as', Tree (copy heap value).1 (copy heap value).2 j as' ∧ ∀ a ∈ as', heap.length ≤ a

theorem copyAll_copies {copy : Heap → Value → Heap × Value}
    (hparts : ∀ part ∈ parts, Tree heap part.value part.json part.addresses)
    (hcopy : ∀ part ∈ parts, Copies copy part.json) :
    Changes heap (copyAll copy heap (parts.map Part.value)).1 [] ∧
      ∃ parts', Forest (copyAll copy heap (parts.map Part.value)).1 parts' ∧
        parts'.map Part.value = (copyAll copy heap (parts.map Part.value)).2 ∧
        parts'.map Part.field = parts.map Part.field ∧
        ∀ a ∈ addressesOf parts', heap.length ≤ a := by
  induction parts generalizing heap with
  | nil => exact ⟨.refl heap _, [], ⟨by simp, by simp⟩, rfl, rfl, by simp⟩
  | cons part parts ih =>
    obtain ⟨htree, htrees⟩ := List.forall_mem_cons.mp hparts
    obtain ⟨hcopy, hcopies⟩ := List.forall_mem_cons.mp hcopy
    obtain ⟨hchanges, as', htree', has'⟩ := hcopy heap part.value part.addresses htree
    obtain ⟨hchanges', parts', hforest, hvalues, hfields, haddresses⟩ :=
      ih (fun other hother => (htrees other hother).of_changes hchanges (by simp)) hcopies
    have hfirst := htree'.of_changes hchanges' (by simp)
    have hapart : ∀ a ∈ as', ∀ b ∈ addressesOf parts', a ≠ b := by
      rintro a ha b hb rfl
      exact (htree'.lt_length a ha).not_ge (haddresses a hb)
    refine ⟨hchanges.trans hchanges' (by simp),
      ⟨part.key, (copy heap part.value).2, part.json, as'⟩ :: parts', ⟨?_, ?_⟩, ?_, ?_, ?_⟩
    · exact List.forall_mem_cons.mpr ⟨hfirst, hforest.trees⟩
    · exact List.nodup_append.mpr ⟨htree'.nodup, hforest.apart, hapart⟩
    · exact congrArg ((copy heap part.value).2 :: ·) hvalues
    · exact congrArg (part.field :: ·) hfields
    · intro a ha
      rw [addressesOf_cons, List.mem_append] at ha
      rcases ha with ha | ha
      · exact has' a ha
      · exact hchanges.grows.trans (haddresses a ha)

/-- A new object after the trees of its parts is a tree. -/
theorem Tree.concat_list (h : Forest heap parts) :
    Tree (heap ++ [.list (parts.map Part.value)]) (.ref heap.length) (.arr (parts.map Part.json))
      (heap.length :: addressesOf parts) := by
  have hforest := h.of_changes (Changes.append heap [.list (parts.map Part.value)]) (by simp)
  refine .list heap.length parts List.getElem?_concat_length hforest.trees ?_
  exact List.nodup_cons.mpr ⟨fun hmem => lt_irrefl _ (h.lt_length _ hmem), h.apart⟩

theorem Tree.concat_dict (h : Forest heap parts) (hkeys : (parts.map Part.key).Nodup) :
    Tree (heap ++ [.dict (parts.map Part.item)]) (.ref heap.length) (.obj (parts.map Part.field))
      (heap.length :: addressesOf parts) := by
  have hforest := h.of_changes (Changes.append heap [.dict (parts.map Part.item)]) (by simp)
  refine .dict heap.length parts List.getElem?_concat_length hkeys hforest.trees ?_
  exact List.nodup_cons.mpr ⟨fun hmem => lt_irrefl _ (h.lt_length _ hmem), h.apart⟩

theorem map_key_of_map_field {parts' : List Part}
    (h : parts'.map Part.field = parts.map Part.field) :
    parts'.map Part.key = parts.map Part.key := by
  have hfst := congrArg (List.map Prod.fst) h
  rwa [List.map_map, List.map_map] at hfst

theorem deepcopy_copies {fuel : ℕ} (hfuel : j.depth ≤ fuel) : Copies (deepcopy fuel) j := by
  induction fuel generalizing j with
  | zero =>
    intro heap value as htree
    cases htree with
    | scalar j noArr noObj => exact ⟨.refl heap _, [], .scalar _ noArr noObj, by simp⟩
    | list a parts object trees apart => simp [Json.depth] at hfuel
    | dict a parts object keys trees apart => simp [Json.depth] at hfuel
  | succ fuel ih =>
    intro heap value as htree
    cases htree with
    | scalar j noArr noObj => exact ⟨.refl heap _, [], .scalar _ noArr noObj, by simp⟩
    | list a parts object trees apart =>
      have hparts : ∀ part ∈ parts, Copies (deepcopy fuel) part.json := by
        intro part hpart
        have hdepth := Json.depth_le_depthItems (List.mem_map_of_mem (f := Part.json) hpart)
        rw [Json.depth] at hfuel
        exact ih (by omega)
      obtain ⟨hchanges, parts', hforest, hvalues, hfields, haddresses⟩ :=
        copyAll_copies trees hparts
      have hjson : parts'.map Part.json = parts.map Part.json := by
        have hsnd := congrArg (List.map Prod.snd) hfields
        rwa [List.map_map, List.map_map] at hsnd
      simp only [deepcopy, object]
      rw [← hvalues, ← hjson]
      refine ⟨hchanges.trans (Changes.append _ _) (by simp), _, .concat_list hforest, ?_⟩
      exact List.forall_mem_cons.mpr ⟨hchanges.grows, haddresses⟩
    | dict a parts object keys trees apart =>
      have hparts : ∀ part ∈ parts, Copies (deepcopy fuel) part.json := by
        intro part hpart
        have hdepth := Json.depth_le_depthFields (List.mem_map_of_mem (f := Part.field) hpart)
        rw [Json.depth] at hfuel
        exact ih (le_trans hdepth (by omega))
      obtain ⟨hchanges, parts', hforest, hvalues, hfields, haddresses⟩ :=
        copyAll_copies trees hparts
      have hkeys := map_key_of_map_field hfields
      have hitems : ((parts.map Part.item).map Prod.fst).zip (parts'.map Part.value) =
          parts'.map Part.item := by
        rw [List.map_map]
        change (parts.map Part.key).zip _ = _
        rw [← hkeys, List.zip_map']
        rfl
      have hsnd : (parts.map Part.item).map Prod.snd = parts.map Part.value := List.map_map
      simp only [deepcopy, object, hsnd]
      rw [← hvalues, hitems, ← hfields]
      refine ⟨hchanges.trans (Changes.append _ _) (by simp), _,
        .concat_dict hforest (hkeys ▸ keys), ?_⟩
      exact List.forall_mem_cons.mpr ⟨hchanges.grows, haddresses⟩

end ObjectHeaps

end LotusAdvise

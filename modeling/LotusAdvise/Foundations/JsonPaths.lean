import LotusAdvise.Foundations.CanonicalJson
import LotusAdvise.Foundations.Dict
import Mathlib.Data.List.Perm.Basic

/-! # Paths into JSON values

A value is what stands at each path into it. Two values whose objects have distinct keys have the
same canonical form exactly if the same stands at every path.
-/

namespace LotusAdvise

inductive JsonStep where
  | key (key : String)
  | index (n : ℕ)
deriving DecidableEq

abbrev JsonPath := List JsonStep

/-- What a value is apart from its items. -/
inductive JsonNode where
  | scalar (value : Json)
  | arr (length : ℕ)
  | obj
deriving DecidableEq

namespace Json

/-- A value is a scalar, or its items have smaller values. -/
@[elab_as_elim]
theorem items_induction {motive : Json → Prop}
    (scalar : ∀ j, (∀ items, j ≠ .arr items) → (∀ items, j ≠ .obj items) → motive j)
    (arr : ∀ items, (∀ j ∈ items, motive j) → motive (.arr items))
    (obj : ∀ items : List (String × Json), (∀ item ∈ items, motive item.2) → motive (.obj items))
    (j : Json) : motive j :=
  @Json.rec motive (fun items => ∀ j ∈ items, motive j)
    (fun items => ∀ item ∈ items, motive item.2) (fun item => motive item.2)
    (scalar .null (by simp) (by simp)) (fun b => scalar (.bool b) (by simp) (by simp))
    (fun n => scalar (.int n) (by simp) (by simp)) (fun r => scalar (.float r) (by simp) (by simp))
    (fun s => scalar (.str s) (by simp) (by simp)) arr obj (by simp)
    (fun _ _ hj hjs => List.forall_mem_cons.mpr ⟨hj, hjs⟩) (by simp)
    (fun _ _ hitem hitems => List.forall_mem_cons.mpr ⟨hitem, hitems⟩) (fun _ _ hj => hj) j

def node : Json → JsonNode
  | .arr items => .arr items.length
  | .obj _ => .obj
  | j => .scalar j

def child : Json → JsonStep → Option Json
  | .arr items, .index n => items[n]?
  | .obj items, .key k => Dict.get? items k
  | _, _ => none

/-- The value that a path leads to. -/
def descend (j : Json) : JsonPath → Option Json
  | [] => some j
  | step :: path => (j.child step).bind (descend · path)

def nodeAt (j : Json) (path : JsonPath) : Option JsonNode := (j.descend path).map node

/-- No object at any depth has a key twice. -/
def DistinctKeys (j : Json) : Prop :=
  ∀ path items, j.descend path = some (.obj items) → (items.map Prod.fst).Nodup

/-- The same stands at every path. -/
def SameNodes (a b : Json) : Prop := ∀ path, a.nodeAt path = b.nodeAt path

variable {a b : Json} {items others : List (String × Json)} {step : JsonStep} {path : JsonPath}

@[simp] theorem descend_nil (j : Json) : j.descend [] = some j := by simp [descend]

theorem descend_cons (j : Json) (step : JsonStep) (path : JsonPath) :
    j.descend (step :: path) = (j.child step).bind (·.descend path) := by simp [descend]

@[simp] theorem nodeAt_nil (j : Json) : j.nodeAt [] = some j.node := by simp [nodeAt]

theorem nodeAt_cons (j : Json) (step : JsonStep) (path : JsonPath) :
    j.nodeAt (step :: path) = (j.child step).bind (·.nodeAt path) := by
  unfold nodeAt
  rw [descend_cons]
  cases j.child step <;> rfl

@[simp] theorem child_index (items : List Json) (n : ℕ) :
    (Json.arr items).child (.index n) = items[n]? := rfl

@[simp] theorem child_key (items : List (String × Json)) (k : String) :
    (Json.obj items).child (.key k) = Dict.get? items k := rfl

theorem DistinctKeys.of_child {c : Json} (h : a.DistinctKeys) (hc : a.child step = some c) :
    c.DistinctKeys := by
  intro path items hdescend
  refine h (step :: path) items ?_
  rw [descend_cons, hc]
  exact hdescend

theorem DistinctKeys.nodup (h : (Json.obj items).DistinctKeys) : (items.map Prod.fst).Nodup :=
  h [] items (descend_nil _)

theorem DistinctKeys.of_mem (h : (Json.obj items).DistinctKeys) {item : String × Json}
    (hitem : item ∈ items) : item.2.DistinctKeys := by
  have hchild : (Json.obj items).child (.key item.1) = some item.2 :=
    Dict.get?_of_mem h.nodup hitem
  exact h.of_child hchild

theorem DistinctKeys.of_getElem? {items : List Json} (h : (Json.arr items).DistinctKeys) {n : ℕ}
    {c : Json} (hc : items[n]? = some c) : c.DistinctKeys := by
  have hchild : (Json.arr items).child (.index n) = some c := hc
  exact h.of_child hchild

theorem distinctKeys_str (text : String) : (Json.str text).DistinctKeys := by
  intro path items hdescend
  cases path with
  | nil => cases hdescend
  | cons step path => cases hdescend

theorem distinctKeys_arr {items : List Json} (h : ∀ c ∈ items, c.DistinctKeys) :
    (Json.arr items).DistinctKeys := by
  intro path fields hdescend
  cases path with
  | nil => cases hdescend
  | cons step path =>
    rw [descend_cons] at hdescend
    obtain ⟨c, hc, hpath⟩ := Option.bind_eq_some_iff.mp hdescend
    cases step with
    | key k => cases hc
    | index n => exact h c (List.mem_of_getElem? hc) path fields hpath

theorem distinctKeys_obj (hn : (items.map Prod.fst).Nodup)
    (h : ∀ item ∈ items, item.2.DistinctKeys) : (Json.obj items).DistinctKeys := by
  intro path fields hdescend
  cases path with
  | nil =>
    cases hdescend
    exact hn
  | cons step path =>
    rw [descend_cons] at hdescend
    obtain ⟨c, hc, hpath⟩ := Option.bind_eq_some_iff.mp hdescend
    cases step with
    | key k => exact h (k, c) (Dict.mem_of_get? hc) path fields hpath
    | index n => cases hc

theorem SameNodes.node_eq (h : SameNodes a b) : a.node = b.node := by
  have hnil := h []
  rwa [nodeAt_nil, nodeAt_nil, Option.some.injEq] at hnil

/-- The children of the values are there for the same steps, and are the same in turn. -/
theorem sameNodes_iff : SameNodes a b ↔
    a.node = b.node ∧ ∀ step, Option.Rel SameNodes (a.child step) (b.child step) := by
  constructor
  · intro h
    refine ⟨h.node_eq, fun step => ?_⟩
    have hchild := fun path => h (step :: path)
    simp only [nodeAt_cons] at hchild
    rcases ha : a.child step with _ | c <;> rcases hb : b.child step with _ | d
    · exact .none
    · have hnil := hchild []
      simp [ha, hb] at hnil
    · have hnil := hchild []
      simp [ha, hb] at hnil
    · refine .some fun path => ?_
      simpa [ha, hb] using hchild path
  · rintro ⟨hnode, hchildren⟩ path
    cases path with
    | nil => simp [hnode]
    | cons step path =>
      rw [nodeAt_cons, nodeAt_cons]
      have hrel := hchildren step
      revert hrel
      rcases a.child step with _ | c <;> rcases b.child step with _ | d <;> intro hrel
      · rfl
      · cases hrel
      · cases hrel
      · cases hrel with
        | some hcd => exact hcd path

/-! ## Canonical forms -/

theorem canonical_of_scalar (harr : ∀ items, a ≠ .arr items) (hobj : ∀ items, a ≠ .obj items) :
    a.canonical = a := by
  cases a with
  | arr items => exact (harr items rfl).elim
  | obj items => exact (hobj items rfl).elim
  | _ => rfl

/-- Items with distinct keys are sorted to the same ones exactly if they are the same under every
key. -/
theorem insertionSort_keys_eq_iff {V : Type*} {items others : List (String × V)}
    (hitems : (items.map Prod.fst).Nodup) (hothers : (others.map Prod.fst).Nodup) :
    items.insertionSort (fun a b => a.1 ≤ b.1) = others.insertionSort (fun a b => a.1 ≤ b.1) ↔
      ∀ k, Dict.get? items k = Dict.get? others k := by
  constructor
  · intro h k
    have hperm : items.Perm others := by
      refine (List.perm_insertionSort (fun a b => a.1 ≤ b.1) items).symm.trans ?_
      rw [h]
      exact List.perm_insertionSort _ _
    refine Option.ext fun v => ?_
    constructor
    · exact fun hv => Dict.get?_of_mem hothers (hperm.mem_iff.mp (Dict.mem_of_get? hv))
    · exact fun hv => Dict.get?_of_mem hitems (hperm.mem_iff.mpr (Dict.mem_of_get? hv))
  · intro h
    have hmem : ∀ item, item ∈ items ↔ item ∈ others := by
      rintro ⟨k, v⟩
      constructor
      · intro hitem
        have hk := Dict.get?_of_mem hitems hitem
        exact Dict.mem_of_get? ((h k).symm.trans hk)
      · intro hitem
        have hk := Dict.get?_of_mem hothers hitem
        exact Dict.mem_of_get? ((h k).trans hk)
    have hperm : items.Perm others :=
      (List.perm_ext_iff_of_nodup hitems.of_map hothers.of_map).mpr hmem
    refine List.Perm.eq_of_pairwise ?_ (List.pairwise_insertionSort _ _)
      (List.pairwise_insertionSort _ _)
      ((List.perm_insertionSort _ _).trans (hperm.trans (List.perm_insertionSort _ _).symm))
    rintro ⟨k, v⟩ ⟨k', v'⟩ hleft hright hle hge
    obtain rfl : k = k' := le_antisymm hle hge
    have hv := Dict.get?_of_mem hitems ((List.perm_insertionSort _ _).mem_iff.mp hleft)
    have hv' := Dict.get?_of_mem hothers ((List.perm_insertionSort _ _).mem_iff.mp hright)
    rw [h k, hv', Option.some.injEq] at hv
    rw [hv]

theorem get?_canonicalFields (items : List (String × Json)) (k : String) :
    Dict.get? (canonicalFields items) k = (Dict.get? items k).map canonical := by
  rw [canonicalFields_eq_map, Dict.get?_map_key, Dict.get?, Option.map_map]
  rfl

theorem map_canonical_eq_iff {x y : Option Json}
    (h : ∀ c d, x = some c → y = some d → (c.canonical = d.canonical ↔ SameNodes c d)) :
    x.map canonical = y.map canonical ↔ Option.Rel SameNodes x y := by
  rcases x with _ | c <;> rcases y with _ | d
  · exact iff_of_true rfl .none
  · exact iff_of_false (fun h => by cases h) (fun h => by cases h)
  · exact iff_of_false (fun h => by cases h) (fun h => by cases h)
  · rw [Option.map_some, Option.map_some, Option.some.injEq, h c d rfl rfl]
    constructor
    · exact .some
    · rintro (_ | hcd)
      assumption

/-- The canonical form forgets the order of the items of objects, and nothing else. -/
theorem canonical_eq_iff (ha : a.DistinctKeys) (hb : b.DistinctKeys) :
    a.canonical = b.canonical ↔ SameNodes a b := by
  induction a using items_induction generalizing b with
  | scalar a harr hobj =>
    have hnode : a.node = .scalar a := by
      cases a with
      | arr items => exact (harr items rfl).elim
      | obj items => exact (hobj items rfl).elim
      | _ => rfl
    rw [canonical_of_scalar harr hobj]
    constructor
    · intro h
      cases b with
      | arr others => exact (harr _ h).elim
      | obj others => exact (hobj _ h).elim
      | _ =>
        rw [h]
        exact fun _ => rfl
    · intro h
      have hsame := (sameNodes_iff.mp h).1
      rw [hnode] at hsame
      cases b with
      | arr others => cases hsame
      | obj others => cases hsame
      | _ => exact JsonNode.scalar.inj hsame
  | arr items ih =>
    cases b with
    | arr others =>
      have hcanonical : (arr items).canonical = (arr others).canonical ↔
          ∀ n : ℕ, items[n]?.map canonical = others[n]?.map canonical := by
        simp only [canonical, Json.arr.injEq, canonicalItems_eq_map, List.ext_getElem?_iff,
          List.getElem?_map]
      have hitems : (∀ n : ℕ, items[n]?.map canonical = others[n]?.map canonical) ↔
          ∀ n : ℕ, Option.Rel SameNodes items[n]? others[n]? := by
        refine forall_congr' fun n => map_canonical_eq_iff fun c d hc hd => ?_
        exact ih c (List.mem_of_getElem? hc) (ha.of_getElem? hc) (hb.of_getElem? hd)
      rw [hcanonical, sameNodes_iff]
      constructor
      · intro h
        have hlength : items.length = others.length := by
          have hmap : items.map canonical = others.map canonical :=
            List.ext_getElem?_iff.mpr fun n => by rw [List.getElem?_map, List.getElem?_map, h]
          simpa using congrArg List.length hmap
        refine ⟨congrArg JsonNode.arr hlength, fun step => ?_⟩
        cases step with
        | key k => exact .none
        | index n => exact hitems.mp h n
      · rintro ⟨-, h⟩
        exact hitems.mpr fun n => h (.index n)
    | obj others => exact iff_of_false (by simp [canonical]) fun h => by cases h.node_eq
    | _ => exact iff_of_false (by simp [canonical]) fun h => by cases h.node_eq
  | obj items ih =>
    cases b with
    | obj others =>
      have hcanonical : (obj items).canonical = (obj others).canonical ↔
          ∀ k, (Dict.get? items k).map canonical = (Dict.get? others k).map canonical := by
        simp only [canonical, Json.obj.injEq, ← get?_canonicalFields]
        refine insertionSort_keys_eq_iff ?_ ?_
        · exact canonicalFields_keys items ▸ ha.nodup
        · exact canonicalFields_keys others ▸ hb.nodup
      have hitems : (∀ k, (Dict.get? items k).map canonical = (Dict.get? others k).map canonical) ↔
          ∀ k, Option.Rel SameNodes (Dict.get? items k) (Dict.get? others k) := by
        refine forall_congr' fun k => map_canonical_eq_iff fun c d hc hd => ?_
        have hmem := Dict.mem_of_get? hc
        exact ih (k, c) hmem (ha.of_mem hmem) (hb.of_mem (Dict.mem_of_get? hd))
      rw [hcanonical, sameNodes_iff]
      constructor
      · intro h
        refine ⟨rfl, fun step => ?_⟩
        cases step with
        | key k => exact hitems.mp h k
        | index n => exact .none
      · rintro ⟨-, h⟩
        exact hitems.mpr fun k => h (.key k)
    | arr others => exact iff_of_false (by simp [canonical]) fun h => by cases h.node_eq
    | _ => exact iff_of_false (by simp [canonical]) fun h => by cases h.node_eq

end Json

end LotusAdvise

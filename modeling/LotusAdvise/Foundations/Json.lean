import Mathlib.Data.List.Sort
import Mathlib.Data.String.Basic

/-! # JSON values and dictionaries

A dictionary is kept as its items in insertion order; `get` reads a missing key as
`null`, `set` overwrites in place or appends. The canonical form sorts the items of
every object by key, so that it does not depend on insertion order.
-/

namespace LotusAdvise

inductive Json where
  | null
  | bool (value : Bool)
  | int (value : ℤ)
  | float (repr : String)
  | str (value : String)
  | arr (items : List Json)
  | obj (items : List (String × Json))

/-- The items of a dictionary. -/
abbrev JsonObject := List (String × Json)

namespace Json

mutual

def decEq : (a b : Json) → Decidable (a = b)
  | .null, .null => isTrue rfl
  | .bool a, .bool b => decidable_of_iff (a = b) (by simp)
  | .int a, .int b => decidable_of_iff (a = b) (by simp)
  | .float a, .float b => decidable_of_iff (a = b) (by simp)
  | .str a, .str b => decidable_of_iff (a = b) (by simp)
  | .arr a, .arr b => @decidable_of_iff _ (a = b) (by simp) (decEqItems a b)
  | .obj a, .obj b => @decidable_of_iff _ (a = b) (by simp) (decEqFields a b)
  | .null, .bool _ | .null, .int _ | .null, .float _ | .null, .str _ | .null, .arr _ => isFalse nofun
  | .null, .obj _ | .bool _, .null | .bool _, .int _ | .bool _, .float _ => isFalse nofun
  | .bool _, .str _ | .bool _, .arr _ | .bool _, .obj _ | .int _, .null => isFalse nofun
  | .int _, .bool _ | .int _, .float _ | .int _, .str _ | .int _, .arr _ => isFalse nofun
  | .int _, .obj _ | .float _, .null | .float _, .bool _ | .float _, .int _ => isFalse nofun
  | .float _, .str _ | .float _, .arr _ | .float _, .obj _ | .str _, .null => isFalse nofun
  | .str _, .bool _ | .str _, .int _ | .str _, .float _ | .str _, .arr _ => isFalse nofun
  | .str _, .obj _ | .arr _, .null | .arr _, .bool _ | .arr _, .int _ => isFalse nofun
  | .arr _, .float _ | .arr _, .str _ | .arr _, .obj _ | .obj _, .null => isFalse nofun
  | .obj _, .bool _ | .obj _, .int _ | .obj _, .float _ | .obj _, .str _ => isFalse nofun
  | .obj _, .arr _ => isFalse nofun

def decEqItems : (a b : List Json) → Decidable (a = b)
  | [], [] => isTrue rfl
  | [], _ :: _ => isFalse nofun
  | _ :: _, [] => isFalse nofun
  | a :: as, b :: bs =>
    match decEq a b, decEqItems as bs with
    | isTrue ha, isTrue hs => isTrue (by rw [ha, hs])
    | isFalse ha, _ => isFalse fun h => ha (List.cons.inj h).1
    | _, isFalse hs => isFalse fun h => hs (List.cons.inj h).2

def decEqFields : (a b : List (String × Json)) → Decidable (a = b)
  | [], [] => isTrue rfl
  | [], _ :: _ => isFalse nofun
  | _ :: _, [] => isFalse nofun
  | (k, a) :: as, (l, b) :: bs =>
    if hk : k = l then
      match decEq a b, decEqFields as bs with
      | isTrue ha, isTrue hs => isTrue (by rw [hk, ha, hs])
      | isFalse ha, _ => isFalse fun h => ha (Prod.mk.inj (List.cons.inj h).1).2
      | _, isFalse hs => isFalse fun h => hs (List.cons.inj h).2
    else isFalse fun h => hk (Prod.mk.inj (List.cons.inj h).1).1

end

instance : DecidableEq Json := decEq

mutual

/-- The value with the items of every object sorted by key. -/
def canonical : Json → Json
  | .arr items => .arr (canonicalItems items)
  | .obj items => .obj ((canonicalFields items).insertionSort fun a b => a.1 ≤ b.1)
  | j => j

def canonicalItems : List Json → List Json
  | [] => []
  | j :: js => j.canonical :: canonicalItems js

def canonicalFields : List (String × Json) → List (String × Json)
  | [] => []
  | (k, j) :: rest => (k, j.canonical) :: canonicalFields rest

end

theorem canonicalFields_keys (items : List (String × Json)) :
    (canonicalFields items).map Prod.fst = items.map Prod.fst := by
  induction items with
  | nil => rfl
  | cons kv rest ih =>
    rw [canonicalFields, List.map_cons, List.map_cons, ih]

/-- Objects with the same canonical form have the same keys. -/
theorem mem_keys_of_canonical_eq {a b : List (String × Json)}
    (h : (Json.obj a).canonical = (Json.obj b).canonical) (k : String) :
    k ∈ a.map Prod.fst ↔ k ∈ b.map Prod.fst := by
  simp only [canonical, Json.obj.injEq] at h
  have perm : ∀ items : List (String × Json), (items.map Prod.fst).Perm
      (((canonicalFields items).insertionSort fun x y => x.1 ≤ y.1).map Prod.fst) := fun items => by
    rw [← canonicalFields_keys items]
    exact ((List.perm_insertionSort _ _).map _).symm
  rw [(perm a).mem_iff, (perm b).mem_iff, h]

mutual

/-- The value without the items whose key is excluded, at any depth. -/
def stripKeys (exclude : List String) : Json → Json
  | .arr items => .arr (stripKeysItems exclude items)
  | .obj items => .obj (stripKeysFields exclude items)
  | j => j

def stripKeysItems (exclude : List String) : List Json → List Json
  | [] => []
  | j :: js => j.stripKeys exclude :: stripKeysItems exclude js

def stripKeysFields (exclude : List String) : List (String × Json) → List (String × Json)
  | [] => []
  | (k, j) :: rest =>
    if k ∈ exclude then stripKeysFields exclude rest
    else (k, j.stripKeys exclude) :: stripKeysFields exclude rest

end

mutual

/-- A compact text of the value, without escapes. -/
def text : Json → String
  | .null => "null"
  | .bool b => if b then "true" else "false"
  | .int n => toString n
  | .float r => r
  | .str s => "\"" ++ s ++ "\""
  | .arr items => "[" ++ textItems items ++ "]"
  | .obj items => "\x7b" ++ textFields items ++ "\x7d"

def textItems : List Json → String
  | [] => ""
  | j :: js => j.text ++ "," ++ textItems js

def textFields : List (String × Json) → String
  | [] => ""
  | (k, j) :: rest => k ++ ":" ++ j.text ++ "," ++ textFields rest

end

/-- Python's truth value. -/
def truthy : Json → Bool
  | .null => false
  | .bool b => b
  | .int n => n ≠ 0
  | .float r => r ≠ "0.0" ∧ r ≠ "-0.0"
  | .str s => s ≠ ""
  | .arr items => !items.isEmpty
  | .obj items => !items.isEmpty

/-- An optional text, as a model dump writes it. -/
def ofText? : Option String → Json
  | none => .null
  | some s => .str s

def ofInt? : Option ℤ → Json
  | none => .null
  | some n => .int n

def ofTexts (texts : List String) : Json := .arr (texts.map .str)

end Json

namespace JsonObject

/-- `d.get(key)`: a missing key and a stored null both read as `None`. -/
def get (d : JsonObject) (key : String) : Json := (d.lookup key).getD .null

/-- `d[key] = value`. -/
def set : JsonObject → String → Json → JsonObject
  | [], key, value => [(key, value)]
  | (k, v) :: rest, key, value =>
    if k = key then (key, value) :: rest else (k, v) :: set rest key value

/-- The items whose value is not `None`. -/
def dropNone (d : JsonObject) : JsonObject := d.filter fun kv => kv.2 ≠ .null

variable (d : JsonObject) (key other : String) (value : Json)

@[simp] theorem get_nil : get [] key = .null := rfl

theorem get_cons (kv : String × Json) :
    get (kv :: d) key = if key = kv.1 then kv.2 else get d key := by
  obtain ⟨k, v⟩ := kv
  by_cases h : key = k
  · simp [get, h]
  · simp [get, List.lookup_cons, h, beq_eq_false_iff_ne.mpr h]

@[simp] theorem get_set_self : get (set d key value) key = value := by
  induction d with
  | nil => simp [set, get_cons]
  | cons kv rest ih =>
    simp only [set]
    split
    · simp [get_cons]
    · next h => rw [get_cons, if_neg (Ne.symm h), ih]

theorem get_set_of_ne (h : other ≠ key) : get (set d key value) other = get d other := by
  induction d with
  | nil => simp [set, get_cons, h]
  | cons kv rest ih =>
    simp only [set]
    split
    · next hk => rw [get_cons, get_cons, if_neg h, if_neg (by rwa [hk])]
    · rw [get_cons, get_cons, ih]

theorem mem_set {d : JsonObject} {key : String} {value : Json} {kv : String × Json}
    (h : kv ∈ set d key value) : kv = (key, value) ∨ kv ∈ d := by
  induction d with
  | nil => exact .inl (List.mem_singleton.mp h)
  | cons first rest ih =>
    simp only [set] at h
    split at h
    · exact (List.mem_cons.mp h).imp_right (List.mem_cons_of_mem _)
    · rcases List.mem_cons.mp h with rfl | h
      · exact .inr List.mem_cons_self
      · exact (ih h).imp_right (List.mem_cons_of_mem _)

theorem get_dropNone_cons (kv : String × Json) : get (dropNone (kv :: d)) key =
    if key = kv.1 ∧ kv.2 ≠ .null then kv.2 else get (dropNone d) key := by
  simp only [dropNone, List.filter_cons, decide_eq_true_eq]
  by_cases hv : kv.2 = .null
  · simp [hv]
  · simp [hv, get_cons]

end JsonObject

end LotusAdvise

import LotusAdvise.Foundations.Dict
import LotusAdvise.Foundations.Json
import Mathlib.Data.Rat.Encodable

/-! # Payloads

A codec dumps a value as JSON and validates JSON as a value; a value is validated from its own
dump. A model is dumped as an object with a field under each of its keys. It is validated by
these fields alone, so that other fields of an object do not matter.
-/

namespace LotusAdvise.Payloads

variable {α β : Type} {key : String} {json : Json} {keys others : List String}

structure Codec (α : Type) where
  dump : α → Json
  validate : Json → Option α
  validate_dump : ∀ a, validate (dump a) = some a

attribute [simp] Codec.validate_dump

/-- How a decimal is written as text. Reading it back loses nothing. -/
structure DecimalTexts where
  text : ℚ → String
  parse : String → Option ℚ
  parse_text : ∀ x, parse (text x) = some x

/-- A decimal as the number of the characters of its text. -/
instance : Inhabited DecimalTexts where
  default :=
    { text := fun x => String.ofList (List.replicate (Encodable.encode x) '1')
      parse := fun value => Encodable.decode value.toList.length
      parse_text := fun x => by
        rw [String.toList_ofList, List.length_replicate, Encodable.encodek] }

namespace Codec

def text : Codec String where
  dump := .str
  validate
    | .str value => some value
    | _ => none
  validate_dump _ := rfl

/-- A dictionary without a schema. -/
def object : Codec JsonObject where
  dump := .obj
  validate
    | .obj items => some items
    | _ => none
  validate_dump _ := rfl

/-- A decimal is dumped as its text; it is also validated from a number. -/
def decimal (texts : DecimalTexts) : Codec ℚ where
  dump x := .str (texts.text x)
  validate
    | .str value => texts.parse value
    | .float repr => texts.parse repr
    | .int value => some value
    | _ => none
  validate_dump := texts.parse_text

/-- One of finitely many values, under its text. -/
def enumeration [DecidableEq α] (text : α → String) (all : List α)
    (unique : ∀ a, all.find? (text · = text a) = some a) : Codec α where
  dump a := .str (text a)
  validate
    | .str value => all.find? (text · = value)
    | _ => none
  validate_dump := unique

variable (codec : Codec α)

theorem mapM_validate_dump (as : List α) : (as.map codec.dump).mapM codec.validate = some as := by
  induction as with
  | nil => rfl
  | cons a as ih =>
    rw [List.map_cons, List.mapM_cons, codec.validate_dump, ih]
    rfl

def list : Codec (List α) where
  dump as := .arr (as.map codec.dump)
  validate
    | .arr items => items.mapM codec.validate
    | _ => none
  validate_dump := codec.mapM_validate_dump

theorem mapM_validate_items (d : Dict String α) :
    (d.map fun item => (item.1, codec.dump item.2)).mapM
      (fun item => (codec.validate item.2).map (item.1, ·)) = some d := by
  induction d with
  | nil => rfl
  | cons item d ih =>
    rw [List.map_cons, List.mapM_cons, codec.validate_dump, ih]
    rfl

/-- A dictionary whose values have a schema. -/
def entries : Codec (Dict String α) where
  dump d := .obj (d.map fun item => (item.1, codec.dump item.2))
  validate
    | .obj items => items.mapM fun item => (codec.validate item.2).map (item.1, ·)
    | _ => none
  validate_dump := codec.mapM_validate_items

/-- An optional value, which is `null` when it is missing. -/
def optional (present : ∀ a, codec.dump a ≠ .null) : Codec (Option α) where
  dump value := value.elim .null codec.dump
  validate json := if json = .null then some none else (codec.validate json).map some
  validate_dump value := by
    cases value with
    | none => rfl
    | some a =>
      rw [Option.elim_some, if_neg (present a), codec.validate_dump]
      rfl

end Codec

/-- The fields of a model, under its keys. -/
structure Fields (keys : List String) (α : Type) where
  dump : α → JsonObject
  validate : JsonObject → Option α
  keys_dump : ∀ a, (dump a).map Prod.fst = keys
  /-- An object that has the fields of a value is validated as the value. -/
  validate_of_agree : ∀ a payload,
    (∀ key ∈ keys, Dict.get? payload key = Dict.get? (dump a) key) → validate payload = some a

namespace Fields

/-- A field, with its default if it has one. -/
def field (key : String) (codec : Codec α) (default? : Option α := none) : Fields [key] α where
  dump a := [(key, codec.dump a)]
  validate payload := (Dict.get? payload key).elim default? codec.validate
  keys_dump _ := rfl
  validate_of_agree a payload h := by
    have hfield : Dict.get? [(key, codec.dump a)] key = some (codec.dump a) :=
      Dict.get?_of_mem (List.nodup_singleton _) List.mem_cons_self
    rw [h key List.mem_cons_self, hfield, Option.elim_some, codec.validate_dump]

theorem get?_append_of_notMem {d d' : JsonObject} (h : key ∉ d.map Prod.fst) :
    Dict.get? (d ++ d') key = Dict.get? d' key := by
  have hnone : Tables.lookup Prod.fst d key = none :=
    Option.map_eq_none_iff.mp (Dict.get?_eq_none.mpr h)
  unfold Dict.get? Tables.lookup at *
  rw [List.find?_append, hnone, Option.none_or]

theorem get?_append_of_mem {d d' : JsonObject} (h : key ∈ d.map Prod.fst) :
    Dict.get? (d ++ d') key = Dict.get? d key := by
  have hsome : Tables.lookup Prod.fst d key ≠ none := fun hnone =>
    Dict.get?_eq_none.mp (Option.map_eq_none_iff.mpr hnone) h
  obtain ⟨item, hitem⟩ := Option.ne_none_iff_exists'.mp hsome
  unfold Dict.get? Tables.lookup at *
  rw [List.find?_append, hitem, Option.some_or]

/-- The fields of two models side by side. -/
def and (fields : Fields keys α) (rest : Fields others β)
    (apart : ∀ key ∈ others, key ∉ keys := by decide) : Fields (keys ++ others) (α × β) where
  dump pair := fields.dump pair.1 ++ rest.dump pair.2
  validate payload := do
    let a ← fields.validate payload
    let b ← rest.validate payload
    return (a, b)
  keys_dump pair := by rw [List.map_append, fields.keys_dump, rest.keys_dump]
  validate_of_agree pair payload h := by
    have hfirst : fields.validate payload = some pair.1 := by
      refine fields.validate_of_agree pair.1 payload fun key hkey => ?_
      rw [h key (List.mem_append_left _ hkey), get?_append_of_mem]
      rwa [fields.keys_dump]
    have hrest : rest.validate payload = some pair.2 := by
      refine rest.validate_of_agree pair.2 payload fun key hkey => ?_
      rw [h key (List.mem_append_right _ hkey), get?_append_of_notMem]
      rw [fields.keys_dump]
      exact apart key hkey
    rw [hfirst, hrest]
    rfl

/-- The fields of a structure that is built from them. -/
def map (fields : Fields keys α) (build : α → β) (parts : β → α)
    (build_parts : ∀ b, build (parts b) = b := by intro; rfl) : Fields keys β where
  dump b := fields.dump (parts b)
  validate payload := (fields.validate payload).map build
  keys_dump b := fields.keys_dump (parts b)
  validate_of_agree b payload h := by
    rw [fields.validate_of_agree (parts b) payload h, Option.map_some, build_parts]

variable (fields : Fields keys α)

theorem validate_dump (a : α) : fields.validate (fields.dump a) = some a :=
  fields.validate_of_agree a _ fun _ _ => rfl

/-- The order of the fields does not matter. -/
theorem validate_of_perm {payload : JsonObject} {a : α} (h : payload.Perm (fields.dump a))
    (hn : keys.Nodup) : fields.validate payload = some a := by
  rw [← fields.keys_dump a] at hn
  have hn' : (payload.map Prod.fst).Nodup := (h.map Prod.fst).nodup_iff.mpr hn
  refine fields.validate_of_agree a payload fun key _ => ?_
  cases hget : Dict.get? (fields.dump a) key with
  | none =>
    rw [Dict.get?_eq_none] at hget ⊢
    exact fun hmem => hget ((h.map Prod.fst).mem_iff.mp hmem)
  | some json => exact Dict.get?_of_mem hn' (h.mem_iff.mpr (Dict.mem_of_get? hget))

/-- A field under another key does not matter. -/
theorem validate_cons (a : α) (h : key ∉ keys) :
    fields.validate ((key, json) :: fields.dump a) = some a := by
  refine fields.validate_of_agree a _ fun other hother => ?_
  exact get?_append_of_notMem (d := [(key, json)]) (by
    rw [List.map_cons, List.map_nil, List.mem_singleton]
    rintro rfl
    exact h hother)

/-- The model as a value. -/
def model : Codec α where
  dump a := .obj (fields.dump a)
  validate
    | .obj payload => fields.validate payload
    | _ => none
  validate_dump := fields.validate_dump

/-- A model that forbids other fields. -/
def validateStrict (payload : JsonObject) : Option α :=
  if ∀ key ∈ payload.map Prod.fst, key ∈ keys then fields.validate payload else none

theorem validateStrict_of_perm {payload : JsonObject} {a : α} (h : payload.Perm (fields.dump a))
    (hn : keys.Nodup) : fields.validateStrict payload = some a := by
  have hkeys : ∀ key ∈ payload.map Prod.fst, key ∈ keys := by
    intro key hkey
    rw [← fields.keys_dump a]
    exact (h.map Prod.fst).mem_iff.mp hkey
  rw [validateStrict, if_pos hkeys, fields.validate_of_perm h hn]

end Fields

end LotusAdvise.Payloads

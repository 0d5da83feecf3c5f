import LotusAdvise.Proposals.Services
import LotusAdvise.Foundations.Text

/-! # Idempotency keys and replay lookup

Keys are normalised before use. A command with a key looks for the newest record whose
metadata carries the key; a stored hash that differs from the request's is a conflict,
and a record without a stored hash counts as a replay.
-/

namespace LotusAdvise.Proposals

def maxIdempotencyKeyLength : ℕ := 128

def containsControlCharacter (value : String) : Bool :=
  value.toList.any fun c => c.toNat < 32 || c.toNat = 127

def normalizeOptionalIdempotencyKey : Option String → Option String
  | none => none
  | some idempotencyKey =>
    let normalized := Text.strip idempotencyKey
    if normalized = "" ∨ normalized.length > maxIdempotencyKeyLength ∨
        containsControlCharacter normalized then none
    else some normalized

def requireProposalIdempotencyKey (idempotencyKey : Option String) : Except ProposalError String :=
  match normalizeOptionalIdempotencyKey idempotencyKey with
  | none => .error (.validation "IDEMPOTENCY_KEY_REQUIRED")
  | some normalized => .ok normalized

/-- A required key is stripped, and not blank. -/
theorem strip_ne_empty_of_require {raw : Option String} {key : String}
    (h : requireProposalIdempotencyKey raw = .ok key) : Text.strip key ≠ "" := by
  unfold requireProposalIdempotencyKey normalizeOptionalIdempotencyKey at h
  cases raw with
  | none => cases h
  | some text =>
    simp only at h
    split at h
    · cases h
    · next hnormalized =>
      split at hnormalized
      · cases hnormalized
      · next hvalid =>
        obtain rfl := Option.some.inj hnormalized
        obtain rfl := Except.ok.inj h
        exact Text.strip_strip_ne_empty fun hempty => hvalid (.inl hempty)

/-- The key when it counts as true: neither missing nor empty. -/
def presentKey (idempotencyKey : Option String) : Option String :=
  idempotencyKey.filter fun key => key ≠ ""

theorem presentKey_some {key : String} (hkey : key ≠ "") : presentKey (some key) = some key := by
  simp [presentKey, Option.filter, hkey]

@[simp] theorem presentKey_normalize (idempotencyKey : Option String) :
    presentKey (normalizeOptionalIdempotencyKey idempotencyKey) =
      normalizeOptionalIdempotencyKey idempotencyKey := by
  cases idempotencyKey with
  | none => rfl
  | some key =>
    simp only [normalizeOptionalIdempotencyKey]
    split
    · rfl
    · next h =>
      rw [not_or] at h
      simp [presentKey, Option.filter, h.1]

/-- The metadata names the key. -/
def Carries (metadata : JsonObject) (key : String) : Prop :=
  JsonObject.get metadata "idempotency_key" = .str key

instance (metadata : JsonObject) (key : String) : Decidable (Carries metadata key) :=
  inferInstanceAs (Decidable (_ = _))

/-- The hash stored in the metadata, if any, is the given one. -/
def HashAgrees (metadata : JsonObject) (hash : String) : Prop :=
  JsonObject.get metadata "idempotency_request_hash" = .null ∨
    JsonObject.get metadata "idempotency_request_hash" = .str hash

instance (metadata : JsonObject) (hash : String) : Decidable (HashAgrees metadata hash) :=
  inferInstanceAs (Decidable (_ ∨ _))

/-- The metadata names the key and the hash of a request made under it. -/
structure Written (key hash : String) (metadata : JsonObject) : Prop where
  carries : Carries metadata key
  hash : JsonObject.get metadata "idempotency_request_hash" = .str hash

def metadataMatchesReplay (metadata : JsonObject) (idempotencyKey requestHash : String) :
    Except String Bool :=
  if JsonObject.get metadata "idempotency_key" ≠ .str idempotencyKey then .ok false
  else
    let existingHash := JsonObject.get metadata "idempotency_request_hash"
    if existingHash ≠ .null ∧ existingHash ≠ .str requestHash then
      .error "IDEMPOTENCY_KEY_CONFLICT: request hash mismatch"
    else .ok true

section Lookup

variable {α : Type} (metadata : α → JsonObject)

/-- The search over records that are listed newest first. -/
def findNewestFirst (key hash : String) : List α → Except String (Option α)
  | [] => .ok none
  | record :: older =>
    match metadataMatchesReplay (metadata record) key hash with
    | .error detail => .error detail
    | .ok true => .ok (some record)
    | .ok false => findNewestFirst key hash older

def findReplayedRecord (records : List α) (idempotencyKey : Option String) (requestHash : String) :
    Except String (Option α) :=
  match presentKey idempotencyKey with
  | none => .ok none
  | some key => findNewestFirst metadata key requestHash records.reverse

/-- The newest record that carries the key. -/
def newestCarrying (records : List α) (key : String) : Option α :=
  records.reverse.find? fun record => Carries (metadata record) key

variable {metadata} {records : List α} {key hash : String}

theorem findNewestFirst_eq : findNewestFirst metadata key hash records =
    match records.find? fun record => Carries (metadata record) key with
    | none => .ok none
    | some record =>
      if HashAgrees (metadata record) hash then .ok (some record)
      else .error "IDEMPOTENCY_KEY_CONFLICT: request hash mismatch" := by
  induction records with
  | nil => rfl
  | cons record older ih =>
    simp only [findNewestFirst, metadataMatchesReplay, List.find?_cons]
    by_cases hc : Carries (metadata record) key
    · have hk : JsonObject.get (metadata record) "idempotency_key" = .str key := hc
      by_cases hh : HashAgrees (metadata record) hash
      · have hne := not_and_or.mpr (hh.imp not_not.mpr not_not.mpr)
        simp only [hk, hc, hh, hne, ne_eq, not_true_eq_false, decide_true, if_true, if_false]
      · have hne := not_or.mp hh
        simp only [hk, hc, hh, hne, ne_eq, not_true_eq_false, decide_true, if_true, if_false,
          not_false_eq_true, and_self]
    · have hk : JsonObject.get (metadata record) "idempotency_key" ≠ .str key := hc
      simp only [hk, hc, ne_eq, not_false_eq_true, decide_false, if_true, ih]

/-- The lookup answers with the newest record that carries the key, whatever older ones say. -/
theorem findReplayedRecord_eq {idempotencyKey : Option String}
    (hkey : presentKey idempotencyKey = some key) :
    findReplayedRecord metadata records idempotencyKey hash =
      match newestCarrying metadata records key with
      | none => .ok none
      | some record =>
        if HashAgrees (metadata record) hash then .ok (some record)
        else .error "IDEMPOTENCY_KEY_CONFLICT: request hash mismatch" := by
  simp only [findReplayedRecord, hkey, findNewestFirst_eq, newestCarrying]

theorem findReplayedRecord_keyless {idempotencyKey : Option String}
    (hkey : presentKey idempotencyKey = none) :
    findReplayedRecord metadata records idempotencyKey hash = .ok none := by
  simp only [findReplayedRecord, hkey]

/-- The search by a key finds nothing exactly when no record carries the key. -/
theorem findReplayedRecord_eq_none {idempotencyKey : Option String}
    (hkey : presentKey idempotencyKey = some key) :
    findReplayedRecord metadata records idempotencyKey hash = .ok none ↔
      newestCarrying metadata records key = none := by
  rw [findReplayedRecord_eq hkey]
  split
  · next h => simp [h]
  · next record h =>
    rw [h]
    split <;> simp

/-- The search finds a record exactly when it is the newest with the key and its hash agrees. -/
theorem findReplayedRecord_eq_some {idempotencyKey : Option String}
    (hkey : presentKey idempotencyKey = some key) {record : α} :
    findReplayedRecord metadata records idempotencyKey hash = .ok (some record) ↔
      newestCarrying metadata records key = some record ∧ HashAgrees (metadata record) hash := by
  rw [findReplayedRecord_eq hkey]
  split
  · next h => simp [h]
  · next found h =>
    rw [h]
    split
    · next hh =>
      simp only [Except.ok.injEq, Option.some.injEq]
      exact ⟨fun he => ⟨he, he ▸ hh⟩, And.left⟩
    · next hh =>
      simp only [Option.some.injEq, false_iff, reduceCtorEq]
      rintro ⟨rfl, hagree⟩
      exact hh hagree

/-- The search fails when the newest record with the key has another hash. -/
theorem findReplayedRecord_conflict {idempotencyKey : Option String}
    (hkey : presentKey idempotencyKey = some key) {record : α}
    (hnewest : newestCarrying metadata records key = some record)
    (hhash : ¬ HashAgrees (metadata record) hash) :
    findReplayedRecord metadata records idempotencyKey hash =
      .error "IDEMPOTENCY_KEY_CONFLICT: request hash mismatch" := by
  rw [findReplayedRecord_eq hkey, hnewest]
  exact if_neg hhash

/-- The newest record carries the key that the metadata alone would be searched for. -/
theorem newestCarrying_map (records : List α) (key : String) :
    newestCarrying id (records.map metadata) key =
      (newestCarrying metadata records key).map metadata := by
  simp only [newestCarrying, ← List.map_reverse, List.find?_map, id_eq, Function.comp_def]

/-- A hit of the search, read off the metadata alone. -/
theorem newestCarrying_of_hit {idempotencyKey : Option String} {record : α}
    (h : findReplayedRecord metadata records idempotencyKey hash = .ok (some record)) :
    ∃ key, presentKey idempotencyKey = some key ∧
      newestCarrying id (records.map metadata) key = some (metadata record) ∧
      HashAgrees (metadata record) hash := by
  rcases hkey : presentKey idempotencyKey with _ | key
  · rw [findReplayedRecord_keyless hkey] at h
    cases h
  · obtain ⟨hnewest, hagree⟩ := (findReplayedRecord_eq_some hkey).mp h
    refine ⟨key, rfl, ?_, hagree⟩
    rw [newestCarrying_map, hnewest, Option.map_some]

theorem newestCarrying_of_miss {idempotencyKey : Option String}
    (h : findReplayedRecord metadata records idempotencyKey hash = .ok none)
    (hkey : presentKey idempotencyKey = some key) :
    newestCarrying id (records.map metadata) key = none := by
  rw [newestCarrying_map, (findReplayedRecord_eq_none hkey).mp h, Option.map_none]

theorem newestCarrying_append (records : List α) (record : α) (key : String) :
    newestCarrying metadata (records ++ [record]) key =
      if Carries (metadata record) key then some record
      else newestCarrying metadata records key := by
  by_cases hc : Carries (metadata record) key <;>
    simp [newestCarrying, hc]

theorem newestCarrying_eq_none (records : List α) (key : String) :
    newestCarrying metadata records key = none ↔
      ∀ record ∈ records, ¬ Carries (metadata record) key := by
  simp [newestCarrying, List.find?_eq_none]

theorem newestCarrying_some {record : α} (h : newestCarrying metadata records key = some record) :
    record ∈ records ∧ Carries (metadata record) key := by
  refine ⟨?_, by simpa using List.find?_some h⟩
  simpa using List.mem_of_find?_eq_some h

end Lookup

/-- The metadata of a record written under a key: the caller's items, then the key and the hash. -/
def withIdempotency (items : JsonObject) (idempotencyKey : Option String) (requestHash : String) :
    JsonObject :=
  match presentKey idempotencyKey with
  | none => items
  | some key =>
    JsonObject.set (JsonObject.set items "idempotency_key" (.str key))
      "idempotency_request_hash" (.str requestHash)

theorem written_withIdempotency (items : JsonObject) {idempotencyKey : Option String} {key : String}
    (hkey : presentKey idempotencyKey = some key) (hash : String) :
    Written key hash (withIdempotency items idempotencyKey hash) := by
  simp only [withIdempotency, hkey]
  constructor
  · rw [Carries, JsonObject.get_set_of_ne _ _ _ _ (by decide), JsonObject.get_set_self]
  · rw [JsonObject.get_set_self]

/-- A record written under a key is a replay of the requests with its hash only. -/
theorem Written.hashAgrees_iff {key hash other : String} {metadata : JsonObject}
    (h : Written key hash metadata) : HashAgrees metadata other ↔ other = hash := by
  simp only [HashAgrees, h.hash, Json.str.injEq, reduceCtorEq, false_or]
  exact eq_comm

end LotusAdvise.Proposals

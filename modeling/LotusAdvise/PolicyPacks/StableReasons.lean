import LotusAdvise.Foundations.DictKeys
import LotusAdvise.Foundations.JsonPaths
import LotusAdvise.PolicyPacks.ReceiptIdentity

/-! # Reasons without trace fields

Two reasons are the same to the idempotency of a command when they differ in nothing but the trace
fields of trusted principals. These are the values whose path goes through a trusted principal to
one of its volatile fields.
-/

namespace LotusAdvise.PolicyPacks

open Json

/-- The path goes from a trusted principal to a field of it that traces a request. -/
def TraceNoise (path : JsonPath) : Prop :=
  ∃ field ∈ ["correlation_id", "trace_id"], [.key "trusted_principal", .key field] <:+: path

/-- A value is what is left of another when the trace fields are deleted. -/
structure Deletes (reason kept : Json) : Prop where
  none_of_noise : ∀ path, TraceNoise path → kept.nodeAt path = none
  same_of_not_noise : ∀ path, ¬ TraceNoise path → kept.nodeAt path = reason.nodeAt path

/-- The path begins with a volatile field. -/
def Volatile : JsonPath → Prop
  | .key field :: _ => field ∈ volatileTrustedPrincipalFields
  | _ => False

variable {j : Json} {items : JsonObject} {path : JsonPath}

theorem traceNoise_cons {step : JsonStep} : TraceNoise (step :: path) ↔
    step = .key "trusted_principal" ∧ Volatile path ∨ TraceNoise path := by
  simp only [TraceNoise, List.infix_cons_iff]
  constructor
  · rintro ⟨field, hfield, hprefix | hinfix⟩
    · obtain ⟨rfl, rest, rfl⟩ : step = .key "trusted_principal" ∧
          ∃ rest, path = .key field :: rest := by
        obtain ⟨rest, hrest⟩ := hprefix
        obtain ⟨hstep, hpath⟩ := List.cons.inj hrest
        exact ⟨hstep.symm, rest, hpath.symm⟩
      exact .inl ⟨rfl, hfield⟩
    · exact .inr ⟨field, hfield, hinfix⟩
  · rintro (⟨rfl, hvolatile⟩ | ⟨field, hfield, hinfix⟩)
    · cases path with
      | nil => exact hvolatile.elim
      | cons first rest =>
        cases first with
        | key field => exact ⟨field, hvolatile, .inl ⟨rest, rfl⟩⟩
        | index n => exact hvolatile.elim
    · exact ⟨field, hfield, .inr hinfix⟩

theorem not_traceNoise_nil : ¬ TraceNoise [] := by
  rintro ⟨field, -, hinfix⟩
  cases List.infix_nil.mp hinfix

/-! ## The pure function -/

theorem stripVolatileItems_eq_map (js : List Json) :
    stripVolatileItems js = js.map stripVolatile := by
  induction js with
  | nil => rfl
  | cons j js ih => exact congrArg (stripVolatile j :: ·) ih

/-- The value under a key, without its volatile fields if it is a trusted principal. -/
def stripUnder (key : String) (j : Json) : Json :=
  if key = "trusted_principal" then dropVolatileFields (stripVolatile j) else stripVolatile j

theorem stripVolatileFields_eq_map (items : JsonObject) :
    stripVolatileFields items = items.map fun item => (item.1, stripUnder item.1 item.2) := by
  induction items with
  | nil => rfl
  | cons item rest ih => exact congrArg ((item.1, stripUnder item.1 item.2) :: ·) ih

theorem get?_stripVolatileFields (items : JsonObject) (k : String) :
    Dict.get? (stripVolatileFields items) k = (Dict.get? items k).map (stripUnder k) := by
  rw [stripVolatileFields_eq_map]
  exact Dict.get?_map_under

theorem stripVolatile_of_scalar (harr : ∀ items, j ≠ .arr items) (hobj : ∀ items, j ≠ .obj items) :
    stripVolatile j = j := by
  cases j with
  | arr items => exact (harr items rfl).elim
  | obj items => exact (hobj items rfl).elim
  | _ => rfl

/-- Dropping fields of an object and stripping what is under the others can change places. -/
theorem stripVolatile_dropVolatileFields (j : Json) :
    stripVolatile (dropVolatileFields j) = dropVolatileFields (stripVolatile j) := by
  cases j with
  | obj items =>
    simp only [dropVolatileFields, stripVolatile, stripVolatileFields_eq_map, List.filter_map]
    rfl
  | _ => rfl

theorem dropVolatileFields_idem (j : Json) :
    dropVolatileFields (dropVolatileFields j) = dropVolatileFields j := by
  cases j with
  | obj items => simp [dropVolatileFields, List.filter_filter]
  | _ => rfl

theorem stripVolatile_idem (j : Json) : stripVolatile (stripVolatile j) = stripVolatile j := by
  induction j using items_induction with
  | scalar j harr hobj => rw [stripVolatile_of_scalar harr hobj, stripVolatile_of_scalar harr hobj]
  | arr items ih =>
    simp only [stripVolatile, stripVolatileItems_eq_map, List.map_map]
    exact congrArg Json.arr (List.map_congr_left ih)
  | obj items ih =>
    simp only [stripVolatile, stripVolatileFields_eq_map, List.map_map]
    refine congrArg Json.obj (List.map_congr_left fun item hitem => ?_)
    have hitem' := ih item hitem
    simp only [Function.comp_apply, stripUnder]
    split
    · rw [stripVolatile_dropVolatileFields, dropVolatileFields_idem, hitem']
    · rw [hitem']

theorem idempotencyStableReason_idem (reason : JsonObject) :
    idempotencyStableReason (idempotencyStableReason reason) = idempotencyStableReason reason :=
  Json.obj.inj (stripVolatile_idem (.obj reason))

/-! ## What is left at each path -/

theorem get?_dropVolatileFields (items : JsonObject) (k : String) :
    Dict.get? (items.filter fun kv => kv.1 ∉ volatileTrustedPrincipalFields) k =
      if k ∉ volatileTrustedPrincipalFields then Dict.get? items k else none :=
  @Dict.get?_filter_keys _ _ _ items k (fun k => k ∉ volatileTrustedPrincipalFields) _

theorem nodeAt_dropVolatileFields_of_volatile (h : Volatile path) :
    (dropVolatileFields j).nodeAt path = none := by
  cases path with
  | nil => exact h.elim
  | cons step path =>
    cases step with
    | index n => exact h.elim
    | key field =>
      rw [nodeAt_cons]
      cases j with
      | obj items =>
        have hfield : field ∈ volatileTrustedPrincipalFields := h
        rw [dropVolatileFields, child_key, get?_dropVolatileFields, if_neg (not_not.mpr hfield)]
        rfl
      | _ => rfl

theorem nodeAt_dropVolatileFields (h : ¬ Volatile path) :
    (dropVolatileFields j).nodeAt path = j.nodeAt path := by
  cases j with
  | obj items =>
    cases path with
    | nil => rfl
    | cons step path =>
      cases step with
      | index n => rfl
      | key field =>
        have hfield : field ∉ volatileTrustedPrincipalFields := h
        rw [nodeAt_cons, nodeAt_cons, dropVolatileFields, child_key, child_key,
          get?_dropVolatileFields, if_pos hfield]
  | _ => rfl

/-- A value keeps its own node, and its children lose what is below them. -/
theorem deletes_of_children {reason kept : Json} (hnode : kept.node = reason.node)
    (hnoise : ∀ step path, TraceNoise (step :: path) → kept.nodeAt (step :: path) = none)
    (hsame : ∀ step path, ¬ TraceNoise (step :: path) →
      kept.nodeAt (step :: path) = reason.nodeAt (step :: path)) : Deletes reason kept := by
  constructor
  · intro path h
    cases path with
    | nil => exact (not_traceNoise_nil h).elim
    | cons step path => exact hnoise step path h
  · intro path h
    cases path with
    | nil => rw [nodeAt_nil, nodeAt_nil, hnode]
    | cons step path => exact hsame step path h

/-- What is left of a value under a key, at a path of which the key is the first step. -/
theorem nodeAt_stripUnder {k : String} (h : Deletes j (stripVolatile j)) :
    (TraceNoise (.key k :: path) → (stripUnder k j).nodeAt path = none) ∧
      (¬ TraceNoise (.key k :: path) → (stripUnder k j).nodeAt path = j.nodeAt path) := by
  rw [traceNoise_cons]
  unfold stripUnder
  split_ifs with hk
  · subst hk
    constructor
    · rintro (⟨-, hvolatile⟩ | hnoise)
      · exact nodeAt_dropVolatileFields_of_volatile hvolatile
      · by_cases hvolatile : Volatile path
        · exact nodeAt_dropVolatileFields_of_volatile hvolatile
        · rw [nodeAt_dropVolatileFields hvolatile, h.none_of_noise path hnoise]
    · intro hpath
      obtain ⟨hvolatile, hnoise⟩ := not_or.mp hpath
      rw [nodeAt_dropVolatileFields fun hv => hvolatile ⟨rfl, hv⟩, h.same_of_not_noise path hnoise]
  · constructor
    · rintro (⟨hstep, -⟩ | hnoise)
      · exact (hk (JsonStep.key.inj hstep)).elim
      · exact h.none_of_noise path hnoise
    · exact fun hpath => h.same_of_not_noise path fun hnoise => hpath (.inr hnoise)

/-- Stripping a value deletes what traces a request, at every depth. -/
theorem deletes_stripVolatile (j : Json) : Deletes j (stripVolatile j) := by
  induction j using items_induction with
  | scalar j harr hobj =>
    rw [stripVolatile_of_scalar harr hobj]
    have hchild : ∀ step, j.child step = none := by
      intro step
      cases j with
      | arr items => exact (harr items rfl).elim
      | obj items => exact (hobj items rfl).elim
      | _ => rfl
    refine deletes_of_children rfl (fun step path _ => ?_) fun _ _ _ => rfl
    rw [nodeAt_cons, hchild]
    rfl
  | arr items ih =>
    have hchild : ∀ n, (stripVolatile (.arr items)).child (.index n) =
        items[n]?.map stripVolatile := by
      intro n
      rw [stripVolatile, stripVolatileItems_eq_map, child_index, List.getElem?_map]
    refine deletes_of_children ?_ ?_ ?_
    · rw [stripVolatile, stripVolatileItems_eq_map, node, node, List.length_map]
    · intro step path hnoise
      cases step with
      | key k => rfl
      | index n =>
        have hpath : TraceNoise path := by simpa [traceNoise_cons] using hnoise
        rw [nodeAt_cons, hchild]
        rcases hitem : items[n]? with _ | item
        · rfl
        · exact (ih item (List.mem_of_getElem? hitem)).none_of_noise path hpath
    · intro step path hnoise
      cases step with
      | key k => rfl
      | index n =>
        have hpath : ¬ TraceNoise path := by simpa [traceNoise_cons] using hnoise
        rw [nodeAt_cons, hchild, nodeAt_cons, child_index]
        rcases hitem : items[n]? with _ | item
        · rfl
        · exact (ih item (List.mem_of_getElem? hitem)).same_of_not_noise path hpath
  | obj items ih =>
    have hchild : ∀ k, (stripVolatile (.obj items)).child (.key k) =
        (Dict.get? items k).map (stripUnder k) := by
      intro k
      rw [stripVolatile, child_key, get?_stripVolatileFields]
    refine deletes_of_children rfl ?_ ?_
    · intro step path hnoise
      cases step with
      | index n => rfl
      | key k =>
        rw [nodeAt_cons, hchild]
        rcases hitem : Dict.get? items k with _ | item
        · rfl
        · exact (nodeAt_stripUnder (ih _ (Dict.mem_of_get? hitem))).1 hnoise
    · intro step path hnoise
      cases step with
      | index n => rfl
      | key k =>
        rw [nodeAt_cons, hchild, nodeAt_cons, child_key]
        rcases hitem : Dict.get? items k with _ | item
        · rfl
        · exact (nodeAt_stripUnder (ih _ (Dict.mem_of_get? hitem))).2 hnoise

theorem Deletes.unique {reason kept other : Json} (h : Deletes reason kept)
    (hother : Deletes reason other) : SameNodes kept other := by
  intro path
  by_cases hnoise : TraceNoise path
  · rw [h.none_of_noise path hnoise, hother.none_of_noise path hnoise]
  · rw [h.same_of_not_noise path hnoise, hother.same_of_not_noise path hnoise]

theorem Deletes.of_sameNodes {reason kept other : Json} (h : Deletes reason kept)
    (hsame : SameNodes kept other) : Deletes reason other :=
  ⟨fun path hnoise => (hsame path).symm.trans (h.none_of_noise path hnoise),
    fun path hnoise => (hsame path).symm.trans (h.same_of_not_noise path hnoise)⟩

theorem distinctKeys_dropVolatileFields (h : j.DistinctKeys) :
    (dropVolatileFields j).DistinctKeys := by
  cases j with
  | obj items =>
    refine distinctKeys_obj (h.nodup.sublist (List.filter_sublist.map _)) fun item hitem => ?_
    exact h.of_mem (List.mem_filter.mp hitem).1
  | _ => exact h

theorem distinctKeys_stripVolatile (h : j.DistinctKeys) : (stripVolatile j).DistinctKeys := by
  induction j using items_induction with
  | scalar j harr hobj => rwa [stripVolatile_of_scalar harr hobj]
  | arr items ih =>
    rw [stripVolatile, stripVolatileItems_eq_map]
    refine distinctKeys_arr (List.forall_mem_map.mpr fun item hitem => ih item hitem ?_)
    obtain ⟨n, hn⟩ := List.mem_iff_getElem?.mp hitem
    exact h.of_getElem? hn
  | obj items ih =>
    rw [stripVolatile, stripVolatileFields_eq_map]
    refine distinctKeys_obj ?_ (List.forall_mem_map.mpr fun item hitem => ?_)
    · rw [List.map_map]
      exact h.nodup
    · have hstripped := ih item hitem (h.of_mem hitem)
      unfold stripUnder
      split
      · exact distinctKeys_dropVolatileFields hstripped
      · exact hstripped

theorem deletes_idempotencyStableReason (reason : JsonObject) :
    Deletes (.obj reason) (.obj (idempotencyStableReason reason)) :=
  deletes_stripVolatile (.obj reason)

/-- Reasons are stable alike exactly if the same is left of both without what traces a request. -/
theorem stable_eq_iff {r s : JsonObject} (hr : (Json.obj r).DistinctKeys)
    (hs : (Json.obj s).DistinctKeys) :
    (Json.obj (idempotencyStableReason r)).canonical =
        (Json.obj (idempotencyStableReason s)).canonical ↔
      ∃ kept, Deletes (.obj r) kept ∧ Deletes (.obj s) kept := by
  refine (canonical_eq_iff (distinctKeys_stripVolatile hr) (distinctKeys_stripVolatile hs)).trans ?_
  constructor
  · intro h
    exact ⟨_, (deletes_idempotencyStableReason r).of_sameNodes h, deletes_idempotencyStableReason s⟩
  · rintro ⟨kept, hkr, hks⟩ path
    have hleft := (deletes_idempotencyStableReason r).unique hkr path
    exact hleft.trans ((deletes_idempotencyStableReason s).unique hks path).symm

end LotusAdvise.PolicyPacks

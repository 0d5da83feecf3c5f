import LotusAdvise.Foundations.Dict

/-! # Registries that expire and are capped

The entries of a registry stand in the order of their insertion. Entries that have expired are
purged, and the oldest ones go when there are more than the cap allows. An entry that does not
expire stays until as many others have been inserted as the cap allows.
-/

namespace LotusAdvise.ExpiringRegistry

variable {K V : Type*}

/-- The entries that have not expired. -/
def purge (expired : V → Bool) (registry : Dict K V) : Dict K V :=
  registry.filter fun item => !expired item.2

/-- The oldest entries go while there are more than the cap allows. -/
def enforceCap (cap : ℕ) : Dict K V → Dict K V
  | [] => []
  | item :: rest => if cap < (item :: rest).length then enforceCap cap rest else item :: rest

/-- The entry is there, and at most that many entries are younger. -/
def Holds (registry : Dict K V) (key : K) (value : V) (younger : ℕ) : Prop :=
  ∃ before after, registry = before ++ (key, value) :: after ∧ after.length ≤ younger

variable {registry : Dict K V} {key : K} {value : V} {younger cap : ℕ} {expired : V → Bool}

theorem enforceCap_eq_drop (registry : Dict K V) :
    enforceCap cap registry = registry.drop (registry.length - cap) := by
  induction registry with
  | nil => rw [enforceCap, List.drop_nil]
  | cons item rest ih =>
    rw [enforceCap]
    split
    · next hlength =>
      rw [ih, List.length_cons, Nat.succ_sub (Nat.lt_succ_iff.mp hlength), List.drop_succ_cons]
    · next hlength => rw [Nat.sub_eq_zero_of_le (Nat.not_lt.mp hlength), List.drop_zero]

theorem length_enforceCap_le (registry : Dict K V) : (enforceCap cap registry).length ≤ cap := by
  rw [enforceCap_eq_drop, List.length_drop]
  omega

theorem enforceCap_sublist (registry : Dict K V) : (enforceCap cap registry).Sublist registry := by
  rw [enforceCap_eq_drop]
  exact List.drop_sublist _ _

theorem purge_sublist (registry : Dict K V) : (purge expired registry).Sublist registry :=
  List.filter_sublist

theorem Holds.mono (h : Holds registry key value younger) {more : ℕ} (hle : younger ≤ more) :
    Holds registry key value more := by
  obtain ⟨before, after, heq, hlength⟩ := h
  exact ⟨before, after, heq, hlength.trans hle⟩

theorem Holds.mem (h : Holds registry key value younger) : (key, value) ∈ registry := by
  obtain ⟨before, after, rfl, -⟩ := h
  exact List.mem_append_right _ List.mem_cons_self

/-- An entry that has not expired survives a purge. -/
theorem Holds.purge (h : Holds registry key value younger) (hexpired : expired value = false) :
    Holds (ExpiringRegistry.purge expired registry) key value younger := by
  obtain ⟨before, after, rfl, hlength⟩ := h
  refine ⟨ExpiringRegistry.purge expired before, ExpiringRegistry.purge expired after, ?_,
    (List.length_filter_le _ after).trans hlength⟩
  rw [ExpiringRegistry.purge, List.filter_append, List.filter_cons_of_pos (by simp [hexpired])]
  rfl

/-- An entry survives an insertion while there is room for the younger ones. -/
theorem Holds.insert (h : Holds registry key value younger) (hroom : younger + 1 < cap)
    (item : K × V) : Holds (enforceCap cap (registry ++ [item])) key value (younger + 1) := by
  obtain ⟨before, after, rfl, hlength⟩ := h
  refine ⟨before.drop ((before ++ (key, value) :: after ++ [item]).length - cap), after ++ [item],
    ?_, ?_⟩
  · rw [enforceCap_eq_drop, List.append_assoc, List.cons_append,
      List.drop_append_of_le_length]
    simp only [List.length_append, List.length_cons, List.length_nil]
    omega
  · rw [List.length_append, List.length_singleton]
    exact Nat.succ_le_succ hlength

theorem holds_inserted (hcap : 0 < cap) (registry : Dict K V) (key : K) (value : V) :
    Holds (enforceCap cap (registry ++ [(key, value)])) key value 0 := by
  refine ⟨registry.drop ((registry ++ [(key, value)]).length - cap), [], ?_, Nat.le_refl 0⟩
  rw [enforceCap_eq_drop, List.drop_append_of_le_length]
  rw [List.length_append, List.length_singleton]
  omega

theorem Holds.get? [DecidableEq K] (h : Holds registry key value younger)
    (hn : (registry.map Prod.fst).Nodup) : Dict.get? registry key = some value :=
  Dict.get?_of_mem hn h.mem

end LotusAdvise.ExpiringRegistry

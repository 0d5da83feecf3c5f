import Mathlib.Algebra.BigOperators.Group.List.Basic
import Mathlib.Algebra.Order.BigOperators.Group.List
import Mathlib.Algebra.Order.Group.Basic

/-! # Running balances

A balance is changed by a list of amounts, one after another. It is solvent if it is never
negative on the way.
-/

namespace LotusAdvise

variable {M : Type*} [AddCommGroup M] [LinearOrder M] [IsOrderedAddMonoid M]

/-- A balance that no amount of a list makes negative. -/
def Solvent (balance : M) : List M → Prop
  | [] => 0 ≤ balance
  | delta :: deltas => 0 ≤ balance ∧ Solvent (balance + delta) deltas

variable {balance : M} {deltas deltas' : List M}

omit [IsOrderedAddMonoid M] in
theorem Solvent.nonneg (h : Solvent balance deltas) : 0 ≤ balance := by
  cases deltas with
  | nil => exact h
  | cons delta deltas => exact h.1

omit [IsOrderedAddMonoid M] in
theorem solvent_iff_prefixes :
    Solvent balance deltas ↔ ∀ taken, taken <+: deltas → 0 ≤ balance + taken.sum := by
  induction deltas generalizing balance with
  | nil => simp [Solvent]
  | cons delta deltas ih =>
    rw [Solvent, ih]
    constructor
    · rintro ⟨hbalance, h⟩ taken htaken
      rcases List.prefix_cons_iff.mp htaken with rfl | ⟨rest, rfl, hrest⟩
      · simpa using hbalance
      · rw [List.sum_cons, ← add_assoc]
        exact h rest hrest
    · intro h
      refine ⟨by simpa using h [] List.nil_prefix, fun taken htaken => ?_⟩
      have := h (delta :: taken) (List.cons_prefix_cons.mpr ⟨rfl, htaken⟩)
      rwa [List.sum_cons, ← add_assoc] at this

omit [IsOrderedAddMonoid M] in
theorem Solvent.end_nonneg (h : Solvent balance deltas) : 0 ≤ balance + deltas.sum :=
  solvent_iff_prefixes.mp h deltas (List.prefix_refl _)

omit [IsOrderedAddMonoid M] in
theorem solvent_append : Solvent balance (deltas ++ deltas') ↔
    Solvent balance deltas ∧ Solvent (balance + deltas.sum) deltas' := by
  induction deltas generalizing balance with
  | nil =>
    rw [List.nil_append, List.sum_nil, add_zero]
    exact ⟨fun h => ⟨h.nonneg, h⟩, fun h => h.2⟩
  | cons delta deltas ih =>
    rw [List.cons_append, Solvent, Solvent, ih, List.sum_cons, and_assoc, add_assoc]

/-- Where nothing is taken away, the balance stays solvent. -/
theorem solvent_of_nonneg (hbalance : 0 ≤ balance) (h : ∀ delta ∈ deltas, 0 ≤ delta) :
    Solvent balance deltas := by
  induction deltas generalizing balance with
  | nil => exact hbalance
  | cons delta deltas ih =>
    rw [List.forall_mem_cons] at h
    exact ⟨hbalance, ih (add_nonneg hbalance h.1) h.2⟩

/-- Where nothing is added, a balance that ends solvent was solvent before. -/
theorem solvent_of_nonpos (hend : 0 ≤ balance + deltas.sum) (h : ∀ delta ∈ deltas, delta ≤ 0) :
    Solvent balance deltas := by
  induction deltas generalizing balance with
  | nil => simpa [Solvent] using hend
  | cons delta deltas ih =>
    rw [List.forall_mem_cons] at h
    rw [List.sum_cons, ← add_assoc] at hend
    have hrest := ih hend h.2
    refine ⟨?_, hrest⟩
    have := hrest.nonneg.trans (add_le_add_right h.1 balance)
    rwa [add_zero] at this

/-- Amounts that take no more than the balance are solvent in every order. -/
theorem solvent_of_spent {Item : Type*} {items : List Item} (delta spent : Item → M)
    (hspent : (items.map spent).sum ≤ balance)
    (h : ∀ item ∈ items, 0 ≤ spent item ∧ -spent item ≤ delta item) :
    Solvent balance (items.map delta) := by
  induction items generalizing balance with
  | nil => simpa [Solvent] using hspent
  | cons item items ih =>
    rw [List.forall_mem_cons] at h
    rw [List.map_cons, List.sum_cons] at hspent
    have hrest : 0 ≤ (items.map spent).sum := by
      apply List.sum_nonneg
      intro x hx
      obtain ⟨other, hother, rfl⟩ := List.mem_map.mp hx
      exact (h.2 other hother).1
    refine ⟨(add_nonneg h.1.1 hrest).trans hspent, ih ?_ h.2⟩
    calc (items.map spent).sum ≤ balance - spent item := le_sub_iff_add_le'.mpr hspent
      _ ≤ balance + delta item := by
        rw [sub_eq_add_neg]
        exact add_le_add_right h.1.2 balance

end LotusAdvise

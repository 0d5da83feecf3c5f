import LotusAdvise.Foundations.Except
import Mathlib.Data.List.Forall2
import Mathlib.Data.List.Sort

/-! # Lists side by side

Two lists of one length whose elements are related pair by pair. Sorting, filtering and taking
first elements keep the pairs together when they go by properties that the pairs share.
-/

namespace LotusAdvise.Alongside

open List

variable {α β : Type*} {R : α → β → Prop} {r : α → α → Prop} {s : β → β → Prop}
  [DecidableRel r] [DecidableRel s] {as : List α} {bs : List β} {a : α} {b : β}

theorem exists_right (h : Forall₂ R as bs) (ha : a ∈ as) : ∃ b ∈ bs, R a b := by
  induction h with
  | nil => cases ha
  | cons hab _ ih =>
    rcases mem_cons.mp ha with rfl | ha
    · exact ⟨_, mem_cons_self, hab⟩
    · obtain ⟨b, hb, hr⟩ := ih ha
      exact ⟨b, mem_cons_of_mem _ hb, hr⟩

theorem exists_left (h : Forall₂ R as bs) (hb : b ∈ bs) : ∃ a ∈ as, R a b := by
  induction h with
  | nil => cases hb
  | cons hab _ ih =>
    rcases mem_cons.mp hb with rfl | hb
    · exact ⟨_, mem_cons_self, hab⟩
    · obtain ⟨a, ha, hr⟩ := ih hb
      exact ⟨a, mem_cons_of_mem _ ha, hr⟩

/-- A property of the right elements that goes over to what it says of the left ones. -/
theorem forall_mem_iff {p : α → Prop} {q : β → Prop} (hpq : ∀ a b, R a b → (p a ↔ q b))
    (h : Forall₂ R as bs) : (∀ a ∈ as, p a) ↔ ∀ b ∈ bs, q b := by
  constructor
  · intro hall b hb
    obtain ⟨a, ha, hr⟩ := exists_left h hb
    exact (hpq a b hr).mp (hall a ha)
  · intro hall a ha
    obtain ⟨b, hb, hr⟩ := exists_right h ha
    exact (hpq a b hr).mpr (hall b hb)

theorem comp {γ : Type*} {S : β → γ → Prop} {cs : List γ} (h : Forall₂ R as bs)
    (h' : Forall₂ S bs cs) : Forall₂ (fun a c => ∃ b, R a b ∧ S b c) as cs := by
  induction h generalizing cs with
  | nil =>
    cases h'
    exact .nil
  | cons hab _ ih =>
    cases h' with
    | cons hbc hrest => exact .cons ⟨_, hab, hbc⟩ (ih hrest)

theorem map_eq_map {γ : Type*} {f : α → γ} {g : β → γ} (h : Forall₂ R as bs)
    (hfg : ∀ a b, R a b → f a = g b) : as.map f = bs.map g := by
  induction h with
  | nil => rfl
  | cons hab _ ih => rw [map_cons, map_cons, hfg _ _ hab, ih]

theorem forall₂_filter {p : α → Bool} {q : β → Bool} (hpq : ∀ a b, R a b → p a = q b)
    (h : Forall₂ R as bs) : Forall₂ R (as.filter p) (bs.filter q) :=
  rel_filter (fun _ _ hr => iff_of_eq (congrArg (· = true) (hpq _ _ hr))) h

theorem forall₂_orderedInsert
    (hrs : ∀ a b a' b', R a b → R a' b' → (r a a' ↔ s b b')) (hab : R a b)
    (h : Forall₂ R as bs) : Forall₂ R (as.orderedInsert r a) (bs.orderedInsert s b) := by
  induction h with
  | nil => exact .cons hab .nil
  | @cons first _ _ _ hab' hrest ih =>
    rw [orderedInsert, orderedInsert]
    by_cases hr : r a first
    · rw [if_pos hr, if_pos ((hrs _ _ _ _ hab hab').mp hr)]
      exact .cons hab (.cons hab' hrest)
    · rw [if_neg hr, if_neg fun hs => hr ((hrs _ _ _ _ hab hab').mpr hs)]
      exact .cons hab' ih

/-- Lists that are sorted by the same order keep their pairs. -/
theorem forall₂_insertionSort (hrs : ∀ a b a' b', R a b → R a' b' → (r a a' ↔ s b b'))
    (h : Forall₂ R as bs) : Forall₂ R (as.insertionSort r) (bs.insertionSort s) := by
  induction h with
  | nil => exact .nil
  | cons hab _ ih => exact forall₂_orderedInsert hrs hab ih

theorem mapM_eq_ok_iff {E : Type*} {β : Type _} {f : α → Except E β} {bs : List β} :
    as.mapM f = .ok bs ↔ Forall₂ (fun a b => f a = .ok b) as bs := by
  induction as generalizing bs with
  | nil =>
    rw [mapM_nil, forall₂_nil_left_iff]
    exact ⟨fun h => (Except.ok.inj h).symm, fun h => h ▸ rfl⟩
  | cons a as ih =>
    rw [mapM_cons, bind_eq_ok, forall₂_cons_left_iff]
    constructor
    · rintro ⟨b, hb, h⟩
      obtain ⟨rest, hrest, h⟩ := bind_eq_ok.mp h
      exact ⟨b, rest, hb, ih.mp hrest, (Except.ok.inj h).symm⟩
    · rintro ⟨b, rest, hb, hrest, rfl⟩
      exact ⟨b, hb, bind_eq_ok.mpr ⟨rest, ih.mpr hrest, rfl⟩⟩

end LotusAdvise.Alongside

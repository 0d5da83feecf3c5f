import LotusAdvise.Foundations.Alongside
import Mathlib.Data.List.ReduceOption
import Mathlib.Tactic.ByContra

/-! # First failures

A walk that may fail at each of its items fails as the first item that does. Its failures are of one
kind when every item that fails otherwise comes after one that fails like that.
-/

namespace LotusAdvise

universe u

variable {E : Type*} {α : Type*} {β : Type u} {f : α → Except E β} {as : List α} {a : α} {b : β}
  {e : E}

theorem mapM_cons_of_error (h : f a = .error e) : (a :: as).mapM f = .error e := by
  rw [List.mapM_cons, h]
  rfl

theorem mapM_cons_of_ok (h : f a = .ok b) : (a :: as).mapM f = (as.mapM f).map (b :: ·) := by
  rw [List.mapM_cons, h]
  cases as.mapM f <;> rfl

/-- The walk fails well if and only if every item that fails badly comes after one that fails
well. -/
theorem mapM_fails_well_iff {Well : E → Prop} :
    (∀ e, as.mapM f = .error e → Well e) ↔
      ∀ before a after e, as = before ++ a :: after → f a = .error e → ¬ Well e →
        ∃ earlier ∈ before, ∃ e', f earlier = .error e' ∧ Well e' := by
  induction as with
  | nil =>
    constructor
    · intro _ before a after e hsplit
      cases before <;> cases hsplit
    · intro _ e h
      cases h
  | cons first as ih =>
    rcases hfirst : f first with e | b
    · rw [mapM_cons_of_error hfirst]
      constructor
      · intro hwell before a after e' hsplit hfail hbad
        have hgood := hwell e rfl
        cases before with
        | nil =>
          obtain ⟨rfl, -⟩ := List.cons.inj hsplit
          rw [hfirst] at hfail
          cases hfail
          exact absurd hgood hbad
        | cons head before =>
          obtain ⟨rfl, -⟩ := List.cons.inj hsplit
          exact ⟨first, List.mem_cons_self, e, hfirst, hgood⟩
      · rintro hafter e' ⟨⟩
        by_contra hbad
        obtain ⟨earlier, hearlier, -⟩ := hafter [] first as e rfl hfirst hbad
        cases hearlier
    · have hsame : (∀ e, (first :: as).mapM f = .error e → Well e) ↔
          ∀ e, as.mapM f = .error e → Well e := by
        rw [mapM_cons_of_ok hfirst]
        cases as.mapM f with
        | error e => rfl
        | ok bs => exact ⟨nofun, nofun⟩
      rw [hsame, ih]
      constructor
      · intro hafter before a after e hsplit hfail hbad
        cases before with
        | nil =>
          obtain ⟨rfl, -⟩ := List.cons.inj hsplit
          rw [hfirst] at hfail
          cases hfail
        | cons head before =>
          obtain ⟨rfl, hrest⟩ := List.cons.inj hsplit
          obtain ⟨earlier, hearlier, hwell⟩ := hafter before a after e hrest hfail hbad
          exact ⟨earlier, List.mem_cons_of_mem _ hearlier, hwell⟩
      · intro hafter before a after e hsplit hfail hbad
        obtain ⟨earlier, hearlier, e', he', hwell⟩ :=
          hafter (first :: before) a after e (by rw [hsplit, List.cons_append]) hfail hbad
        rcases List.mem_cons.mp hearlier with rfl | hmem
        · rw [hfirst] at he'
          cases he'
        · exact ⟨earlier, hmem, e', he', hwell⟩

/-- A walk that skips some items and keeps something of each of the others. -/
theorem exists_mapM_reduceOption {f : α → Except E (Option β)} {p : α → Prop} [DecidablePred p]
    {R : α → β → Prop} (hskip : ∀ a ∈ as, ¬ p a → f a = .ok none)
    (hkeep : ∀ a ∈ as, p a → ∃ b, f a = .ok (some b) ∧ R a b) :
    ∃ bs, as.mapM f = .ok bs ∧ List.Forall₂ R (as.filter p) bs.reduceOption := by
  induction as with
  | nil => exact ⟨[], rfl, .nil⟩
  | cons a as ih =>
    obtain ⟨hskip, hskips⟩ := List.forall_mem_cons.mp hskip
    obtain ⟨hkeep, hkeeps⟩ := List.forall_mem_cons.mp hkeep
    obtain ⟨bs, hbs, hkept⟩ := ih hskips hkeeps
    by_cases hp : p a
    · obtain ⟨b, hb, hr⟩ := hkeep hp
      refine ⟨some b :: bs, ?_, ?_⟩
      · rw [mapM_cons_of_ok hb, hbs]
        rfl
      · rw [List.filter_cons_of_pos (by simpa using hp), List.reduceOption_cons_of_some]
        exact .cons hr hkept
    · refine ⟨none :: bs, ?_, ?_⟩
      · rw [mapM_cons_of_ok (hskip hp), hbs]
        rfl
      · rwa [List.filter_cons_of_neg (by simpa using hp), List.reduceOption_cons_of_none]

/-- The first element that is found has a first element found beside it. -/
theorem exists_find?_of_forall₂ {γ : Type*} {R : α → γ → Prop} {p : α → Bool} {q : γ → Bool}
    {cs : List γ} (hpq : ∀ a c, R a c → p a = q c) (h : List.Forall₂ R as cs)
    (hfind : as.find? p = some a) : ∃ c, cs.find? q = some c ∧ R a c := by
  induction h with
  | nil => cases hfind
  | @cons first c _ _ hr _ ih =>
    rcases hfirst : p first with _ | _
    · rw [List.find?_cons_of_neg (by rw [hfirst]; decide)] at hfind
      rw [List.find?_cons_of_neg (by rw [← hpq first c hr, hfirst]; decide)]
      exact ih hfind
    · rw [List.find?_cons_of_pos hfirst] at hfind
      rw [List.find?_cons_of_pos ((hpq first c hr).symm.trans hfirst)]
      cases hfind
      exact ⟨c, rfl, hr⟩

end LotusAdvise

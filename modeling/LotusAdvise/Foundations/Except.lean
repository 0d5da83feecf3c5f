import Mathlib.Logic.Basic

/-! # Fallible computations

Inversion of the steps of a computation that may fail: a sequence that returns has a
first part that returned.
-/

namespace LotusAdvise

universe u

variable {E F : Type*} {α β : Type u}

theorem bind_eq_ok {x : Except E α} {f : α → Except E β} {b : β} :
    (x >>= f) = .ok b ↔ ∃ a, x = .ok a ∧ f a = .ok b := by
  cases x <;> simp [bind, Except.bind]

theorem ok_bind (a : α) (f : α → Except E β) : ((.ok a : Except E α) >>= f) = f a := rfl

theorem mapError_ok (a : α) (g : E → F) : (.ok a : Except E α).mapError g = .ok a := rfl

theorem map_eq_ok {α β : Type*} {x : Except E α} {f : α → β} {b : β} :
    x.map f = .ok b ↔ ∃ a, x = .ok a ∧ f a = b := by
  cases x <;> simp [Except.map]

theorem mapError_eq_ok {x : Except E α} {g : E → F} {a : α} :
    x.mapError g = .ok a ↔ x = .ok a := by
  cases x with
  | error e => constructor <;> rintro ⟨⟩
  | ok b =>
    constructor
    · rintro ⟨⟩
      rfl
    · rintro ⟨⟩
      rfl

theorem toOption_eq_some {x : Except E α} {a : α} : x.toOption = some a ↔ x = .ok a := by
  cases x <;> simp [Except.toOption]

theorem foldlM_nil_eq_ok {f : β → α → Except E β} {b c : β} :
    ([] : List α).foldlM f b = .ok c ↔ b = c := by
  simp [pure, Except.pure]

theorem foldlM_cons_eq_ok {f : β → α → Except E β} {a : α} {as : List α} {b c : β} :
    (a :: as).foldlM f b = .ok c ↔ ∃ b', f b a = .ok b' ∧ as.foldlM f b' = .ok c := by
  rw [List.foldlM_cons, bind_eq_ok]

/-- An invariant that each step of a fold keeps. -/
theorem foldlM_keeps {f : β → α → Except E β} {as : List α} {b c : β} {I : β → Prop}
    (keep : ∀ before a after, a ∈ as → I before → f before a = .ok after → I after) (hb : I b)
    (h : as.foldlM f b = .ok c) : I c := by
  induction as generalizing b with
  | nil => exact foldlM_nil_eq_ok.mp h ▸ hb
  | cons a as ih =>
    obtain ⟨after, ha, hrest⟩ := foldlM_cons_eq_ok.mp h
    exact ih (fun before a' after' ha' => keep before a' after' (List.mem_cons_of_mem a ha'))
      (keep b a after List.mem_cons_self hb ha) hrest

/-- A fold fails with the only error that its steps have when one of them fails in every state of an
invariant. -/
theorem foldlM_eq_error {f : β → α → Except E β} {as : List α} {b : β} {e : E} {I : β → Prop}
    (keep : ∀ before a after, a ∈ as → I before → f before a = .ok after → I after) (hb : I b)
    (honly : ∀ before a e', a ∈ as → I before → f before a = .error e' → e' = e)
    (hfail : ∃ a ∈ as, ∀ before, I before → f before a = .error e) :
    as.foldlM f b = .error e := by
  induction as generalizing b with
  | nil =>
    obtain ⟨a, ha, -⟩ := hfail
    cases ha
  | cons a as ih =>
    rw [List.foldlM_cons]
    rcases hstep : f b a with e' | after
    · rw [honly b a e' List.mem_cons_self hb hstep]
      rfl
    · refine ih (fun before a' after' ha' => keep before a' after' (List.mem_cons_of_mem a ha'))
        (keep b a after List.mem_cons_self hb hstep)
        (fun before a' e' ha' => honly before a' e' (List.mem_cons_of_mem a ha')) ?_
      obtain ⟨failing, hmem, herror⟩ := hfail
      rcases List.mem_cons.mp hmem with rfl | hmem
      · rw [herror b hb] at hstep
        cases hstep
      · exact ⟨failing, hmem, herror⟩

/-- What a sequence of computations returned was returned by one of them. -/
theorem mem_mapM {f : α → Except E β} {as : List α} {bs : List β} (h : as.mapM f = .ok bs) {b : β}
    (hb : b ∈ bs) : ∃ a ∈ as, f a = .ok b := by
  induction as generalizing bs with
  | nil =>
    cases h
    cases hb
  | cons a as ih =>
    rw [List.mapM_cons] at h
    obtain ⟨b', hb', h⟩ := bind_eq_ok.mp h
    obtain ⟨bs', hbs', h⟩ := bind_eq_ok.mp h
    cases h
    rcases List.mem_cons.mp hb with rfl | hb
    · exact ⟨a, List.mem_cons_self, hb'⟩
    · obtain ⟨a', ha', heq⟩ := ih hbs' hb
      exact ⟨a', List.mem_cons_of_mem _ ha', heq⟩

/-- The state after a computation that may be refused, in which case it keeps the old state. -/
theorem getD_toOption_ite {condition : Prop} [Decidable condition] {a b : α} {e : E} :
    (if condition then .ok a else .error e : Except E α).toOption.getD b =
      if condition then a else b := by
  split <;> rfl

/-- The elements that a fallible predicate holds of; it is evaluated on all of them. -/
def filterOk {α : Type} (p : α → Except E Bool) : List α → Except E (List α)
  | [] => .ok []
  | a :: as => do
    let keep ← p a
    let rest ← filterOk p as
    return if keep then a :: rest else rest

theorem filterOk_eq_ok {α : Type} {p : α → Except E Bool} {as kept : List α}
    (h : filterOk p as = .ok kept) : kept = as.filter fun a => (p a).toOption = some true := by
  induction as generalizing kept with
  | nil => cases h; rfl
  | cons a as ih =>
    obtain ⟨keep, hkeep, h⟩ := bind_eq_ok.mp h
    obtain ⟨rest, hrest, h⟩ := bind_eq_ok.mp h
    cases h
    rw [ih hrest, List.filter_cons, hkeep]
    cases keep <;> rfl

/-- A check that fails with the given error unless its condition holds. -/
def require (condition : Prop) [Decidable condition] (error : E) : Except E Unit :=
  if condition then .ok () else .error error

theorem require_eq_ok {condition : Prop} [Decidable condition] {error : E} {u : Unit} :
    require condition error = .ok u ↔ condition := by
  simp [require]

@[simp] theorem require_true {condition : Prop} [Decidable condition] {error : E}
    (h : condition) : require condition error = .ok () := if_pos h

@[simp] theorem require_false {condition : Prop} [Decidable condition] {error : E}
    (h : ¬ condition) : require condition error = .error error := if_neg h

end LotusAdvise

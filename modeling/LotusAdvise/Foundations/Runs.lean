import Mathlib.Data.List.Basic
import Mathlib.Data.List.Infix

/-! # Runs of labelled transition systems

A system is a partial step function over states and labels. Besides reachability,
runs carry conditions on every one of their steps; an invariant that needs such a
condition is established by `invariant_of_everyStep`, and a safety property is shown
equivalent to one by `everyStep_iff_of_invariant`.
-/

namespace LotusAdvise.Runs

variable {S L : Type*} {step : S → L → Option S}

/-- The state after a list of labels, when each of them was enabled. -/
def run (step : S → L → Option S) : S → List L → Option S
  | s, [] => some s
  | s, l :: ls => (step s l).bind fun t => run step t ls

@[simp] theorem run_nil (s : S) : run step s [] = some s := rfl

theorem run_cons (s : S) (l : L) (ls : List L) :
    run step s (l :: ls) = (step s l).bind fun t => run step t ls := rfl

theorem run_cons_eq_some {s u : S} {l : L} {ls : List L} :
    run step s (l :: ls) = some u ↔ ∃ t, step s l = some t ∧ run step t ls = some u := by
  rw [run_cons, Option.bind_eq_some_iff]

theorem run_append (s : S) (ls ms : List L) :
    run step s (ls ++ ms) = (run step s ls).bind fun t => run step t ms := by
  induction ls generalizing s with
  | nil => rfl
  | cons l ls ih =>
    rw [List.cons_append, run_cons, run_cons, Option.bind_assoc]
    simp only [ih]

theorem run_append_eq_some {s u : S} {ls ms : List L} :
    run step s (ls ++ ms) = some u ↔ ∃ t, run step s ls = some t ∧ run step t ms = some u := by
  rw [run_append, Option.bind_eq_some_iff]

theorem run_concat_eq_some {s u : S} {ls : List L} {l : L} :
    run step s (ls ++ [l]) = some u ↔ ∃ t, run step s ls = some t ∧ step t l = some u := by
  simp only [run_append_eq_some, run_cons_eq_some, run_nil, Option.some.injEq, exists_eq_right]

/-- `Q` holds of every step the labels take from `s`: of the state before the step, its label
and the state after it. -/
def EveryStep (step : S → L → Option S) (Q : S → L → S → Prop) : S → List L → Prop
  | _, [] => True
  | s, l :: ls => ∀ t, step s l = some t → Q s l t ∧ EveryStep step Q t ls

instance EveryStep.decidable {Q : S → L → S → Prop} [∀ s l t, Decidable (Q s l t)] :
    ∀ s ls, Decidable (EveryStep step Q s ls)
  | _, [] => isTrue trivial
  | s, l :: ls =>
    match h : step s l with
    | none => isTrue fun t ht => (by rw [h] at ht; cases ht)
    | some t =>
      have := EveryStep.decidable (Q := Q) t ls
      decidable_of_iff (Q s l t ∧ EveryStep step Q t ls)
        ⟨fun hq u hu => (by rw [h] at hu; cases hu; exact hq), fun hq => hq t h⟩

/-- `P` holds of every state the labels reach from `s`, the first one included. -/
def EveryState (step : S → L → Option S) (P : S → Prop) (s : S) (ls : List L) : Prop :=
  P s ∧ EveryStep step (fun _ _ t => P t) s ls

instance {P : S → Prop} [DecidablePred P] (s : S) (ls : List L) :
    Decidable (EveryState step P s ls) :=
  inferInstanceAs (Decidable (_ ∧ _))

section Steps

variable {Q R : S → L → S → Prop} {P I : S → Prop} {s t : S} {l : L} {ls ms : List L}

@[simp] theorem everyStep_nil : EveryStep step Q s [] := trivial

theorem everyStep_cons : EveryStep step Q s (l :: ls) ↔
    ∀ t, step s l = some t → Q s l t ∧ EveryStep step Q t ls := Iff.rfl

theorem everyStep_append : EveryStep step Q s (ls ++ ms) ↔
    EveryStep step Q s ls ∧ ∀ t, run step s ls = some t → EveryStep step Q t ms := by
  induction ls generalizing s with
  | nil => simp
  | cons l ls ih =>
    simp only [List.cons_append, everyStep_cons, run_cons_eq_some, ih]
    constructor
    · intro h
      exact ⟨fun t ht => ⟨(h t ht).1, (h t ht).2.1⟩, fun u ⟨t, ht, hu⟩ => (h t ht).2.2 u hu⟩
    · rintro ⟨h₁, h₂⟩ t ht
      exact ⟨(h₁ t ht).1, (h₁ t ht).2, fun u hu => h₂ u ⟨t, ht, hu⟩⟩

/-- A condition on every step, spelled out over the prefixes of the run. -/
theorem everyStep_iff_prefixes : EveryStep step Q s ls ↔
    ∀ pre l, pre ++ [l] <+: ls → ∀ t u, run step s pre = some t → step t l = some u → Q t l u := by
  constructor
  · rintro h pre l ⟨post, rfl⟩ t u ht hu
    rw [List.append_assoc, everyStep_append] at h
    exact (h.2 t ht u hu).1
  · intro h
    induction ls generalizing s with
    | nil => trivial
    | cons l ls ih =>
      intro t ht
      refine ⟨h [] l ⟨ls, rfl⟩ s t rfl ht, ih fun pre m ⟨post, hpost⟩ u v hu hv => ?_⟩
      exact h (l :: pre) m ⟨post, by rw [← hpost]; rfl⟩ u v (run_cons_eq_some.mpr ⟨t, ht, hu⟩) hv

theorem everyStep_and : EveryStep step (fun s l t => Q s l t ∧ R s l t) s ls ↔
    EveryStep step Q s ls ∧ EveryStep step R s ls := by
  simp only [everyStep_iff_prefixes, forall_and]

theorem everyStep_of_labels (h : ∀ l ∈ ls, ∀ s t, Q s l t) : EveryStep step Q s ls := by
  refine everyStep_iff_prefixes.mpr fun pre l hpre t u _ _ => h l ?_ t u
  exact hpre.subset (List.mem_append_right _ (List.mem_singleton_self l))

theorem EveryStep.mono (hQR : ∀ s l t, step s l = some t → Q s l t → R s l t)
    (h : EveryStep step Q s ls) : EveryStep step R s ls := by
  induction ls generalizing s with
  | nil => trivial
  | cons l ls ih => exact fun t ht => ⟨hQR s l t ht (h t ht).1, ih (h t ht).2⟩

theorem everyState_iff_prefixes : EveryState step P s ls ↔
    ∀ pre, pre <+: ls → ∀ t, run step s pre = some t → P t := by
  constructor
  · rintro ⟨hs, h⟩ pre hpre t ht
    rcases List.eq_nil_or_concat pre with rfl | ⟨pre, l, rfl⟩
    · cases ht; exact hs
    · rw [List.concat_eq_append] at hpre ht
      obtain ⟨u, hu, hut⟩ := run_concat_eq_some.mp ht
      exact everyStep_iff_prefixes.mp h pre l hpre u t hu hut
  · intro h
    refine ⟨h [] (List.nil_prefix) s rfl, everyStep_iff_prefixes.mpr ?_⟩
    exact fun pre l hpre t u ht hu => h _ hpre u (run_concat_eq_some.mpr ⟨t, ht, hu⟩)

theorem EveryState.of_run (h : EveryState step P s ls) (ht : run step s ls = some t) : P t :=
  everyState_iff_prefixes.mp h ls List.prefix_rfl t ht

/-- An invariant that each step keeps as long as the step meets its condition. -/
theorem invariant_of_everyStep
    (keep : ∀ s l t, I s → step s l = some t → Q s l t → I t)
    (hs : I s) (h : EveryStep step Q s ls) (ht : run step s ls = some t) : I t := by
  induction ls generalizing s with
  | nil => cases ht; exact hs
  | cons l ls ih =>
    obtain ⟨u, hu, hut⟩ := run_cons_eq_some.mp ht
    exact ih (keep s l u hs hu (h u hu).1) (h u hu).2 hut

theorem invariant_of_step (keep : ∀ s l t, I s → step s l = some t → I t)
    (hs : I s) (ht : run step s ls = some t) : I t := by
  refine invariant_of_everyStep (Q := fun _ _ _ => True) (fun s l t hi hst _ => keep s l t hi hst)
    hs ?_ ht
  exact everyStep_iff_prefixes.mpr fun _ _ _ _ _ _ _ => trivial

/-- Under an invariant that it helps to keep, a step condition implies another one. -/
theorem EveryStep.of_invariant
    (keep : ∀ s l t, I s → step s l = some t → Q s l t → I t ∧ R s l t) (hs : I s)
    (h : EveryStep step Q s ls) : EveryStep step R s ls := by
  induction ls generalizing s with
  | nil => trivial
  | cons l ls ih =>
    intro t ht
    obtain ⟨hI, hR⟩ := keep s l t hs ht (h t ht).1
    exact ⟨hR, ih hI (h t ht).2⟩

/-- Under an invariant, a step condition can be exchanged for another one that is equivalent to it
on single steps and keeps the invariant. -/
theorem everyStep_iff_of_invariant
    (keep : ∀ s l t, I s → step s l = some t → Q s l t → I t)
    (same : ∀ s l t, I s → step s l = some t → (R s l t ↔ Q s l t)) (hs : I s) :
    EveryStep step R s ls ↔ EveryStep step Q s ls := by
  induction ls generalizing s with
  | nil => exact Iff.rfl
  | cons l ls ih =>
    constructor
    · intro h t ht
      have hq := (same s l t hs ht).mp (h t ht).1
      exact ⟨hq, (ih (keep s l t hs ht hq)).mp (h t ht).2⟩
    · intro h t ht
      have hq := (h t ht).1
      exact ⟨(same s l t hs ht).mpr hq, (ih (keep s l t hs ht hq)).mpr (h t ht).2⟩

/-- A property of all states reached is exactly a condition on the steps taken. -/
theorem everyState_iff_of_invariant
    (keep : ∀ s l t, I s → step s l = some t → Q s l t → I t)
    (same : ∀ s l t, I s → step s l = some t → (P t ↔ Q s l t)) (hs : I s) (hp : P s) :
    EveryState step P s ls ↔ EveryStep step Q s ls := by
  rw [EveryState, everyStep_iff_of_invariant keep same hs]
  exact and_iff_right hp

end Steps

end LotusAdvise.Runs

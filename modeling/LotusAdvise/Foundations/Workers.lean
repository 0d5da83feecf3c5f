import LotusAdvise.Foundations.Runs
import Mathlib.Logic.Function.Basic

/-! # Interleaved workers

A worker goes through the local states of a program, one atomic step on the shared store at
a time; a step may take an input from outside, such as a clock reading. A pool runs any
number of workers, and one that is never advanced again has crashed. Safety properties
follow from an invariant of the store and an assertion for each worker that no step of
another worker disturbs.
-/

namespace LotusAdvise.Workers

open Runs

/-- Calls, the local states they go through and the inputs of their steps; a local state without a
step is the end of its call. -/
structure Program (S L C I : Type*) where
  start : C → L
  step : S → L → I → Option (S × L)

structure Pool (S L : Type*) where
  store : S
  worker : ℕ → Option L

inductive Label (C I : Type*) where
  | start (worker : ℕ) (call : C)
  | advance (worker : ℕ) (input : I)

variable {S L C I : Type*}

/-- The worker that takes the step. -/
def Label.worker : Label C I → ℕ
  | .start worker _ => worker
  | .advance worker _ => worker

namespace Pool

def initial (s : S) : Pool S L := ⟨s, fun _ => none⟩

/-- The pool after a step of one worker. -/
def moved (p : Pool S L) (i : ℕ) (s : S) (l : L) : Pool S L :=
  ⟨s, Function.update p.worker i (some l)⟩

variable {p : Pool S L} {i j : ℕ} {s : S} {l : L}

@[simp] theorem moved_store : (p.moved i s l).store = s := rfl

@[simp] theorem moved_worker_self : (p.moved i s l).worker i = some l := Function.update_self ..

theorem moved_worker_of_ne (h : j ≠ i) : (p.moved i s l).worker j = p.worker j :=
  Function.update_of_ne h ..

theorem moved_cases {m : L} (h : (p.moved i s l).worker j = some m) :
    j = i ∧ m = l ∨ j ≠ i ∧ p.worker j = some m := by
  by_cases hj : j = i
  · subst hj
    rw [moved_worker_self, Option.some.injEq] at h
    exact .inl ⟨rfl, h.symm⟩
  · exact .inr ⟨hj, moved_worker_of_ne hj ▸ h⟩

@[simp] theorem moved_moved {s' : S} {l' : L} : (p.moved i s l).moved i s' l' = p.moved i s' l' := by
  simp [moved]

/-- No two workers hold the same. -/
def Exclusive {K : Type*} (holds : L → Option K) (p : Pool S L) : Prop :=
  ∀ i j l m k, p.worker i = some l → p.worker j = some m → k ∈ holds l → k ∈ holds m → i = j

theorem Exclusive.moved {K : Type*} {holds : L → Option K} (h : Exclusive holds p)
    (hfree : ∀ k ∈ holds l, ∀ j m, i ≠ j → p.worker j = some m → k ∉ holds m) :
    Exclusive holds (p.moved i s l) := by
  intro j j' m m' k hm hm' hk hk'
  rcases moved_cases hm with ⟨rfl, rfl⟩ | ⟨hj, hother⟩ <;>
    rcases moved_cases hm' with ⟨rfl, rfl⟩ | ⟨hj', hother'⟩
  · rfl
  · exact (hfree k hk j' m' hj'.symm hother' hk').elim
  · exact (hfree k hk' j m hj.symm hother hk).elim
  · exact h j j' m m' k hother hother' hk hk'

theorem exclusive_initial {K : Type*} {holds : L → Option K} :
    Exclusive holds (initial s : Pool S L) :=
  fun _ _ _ _ _ h => by cases h

end Pool

namespace Program

variable (P : Program S L C I)

/-- One step of a pool: a call starts on a worker that had none yet, or a worker takes its next
step. -/
def next (p : Pool S L) : Label C I → Option (Pool S L)
  | .start i c => if (p.worker i).isNone then some (p.moved i p.store (P.start c)) else none
  | .advance i x => (p.worker i).bind fun l => (P.step p.store l x).map fun (s, l') => p.moved i s l'

/-- Everything one step of a pool can be. -/
inductive Next (p : Pool S L) : Label C I → Pool S L → Prop where
  | start (i : ℕ) (c : C) (idle : p.worker i = none) :
    Next p (.start i c) (p.moved i p.store (P.start c))
  | advance (i : ℕ) (x : I) (l : L) (s' : S) (l' : L) (worker : p.worker i = some l)
    (step : P.step p.store l x = some (s', l')) : Next p (.advance i x) (p.moved i s' l')

theorem next_iff {p q : Pool S L} {label : Label C I} :
    P.next p label = some q ↔ P.Next p label q := by
  constructor
  · intro h
    cases label with
    | start i c =>
      simp only [next] at h
      split at h
      · next hidle =>
        obtain rfl := Option.some.inj h
        exact .start i c (Option.isNone_iff_eq_none.mp hidle)
      · cases h
    | advance i x =>
      obtain ⟨l, hl, hstep⟩ := Option.bind_eq_some_iff.mp h
      obtain ⟨⟨s', l'⟩, hs', rfl⟩ := Option.map_eq_some_iff.mp hstep
      exact .advance i x l s' l' hl hs'
  · rintro (⟨i, c, hidle⟩ | ⟨i, x, l, s', l', hl, hs'⟩)
    · simp [next, hidle]
    · simp [next, hl, hs']

theorem next_start {p : Pool S L} {i : ℕ} (c : C) (h : p.worker i = none) :
    P.next p (.start i c) = some (p.moved i p.store (P.start c)) :=
  P.next_iff.mpr (.start i c h)

theorem next_advance {p : Pool S L} {i : ℕ} {s' : S} {l l' : L} {x : I} (hl : p.worker i = some l)
    (h : P.step p.store l x = some (s', l')) : P.next p (.advance i x) = some (p.moved i s' l') :=
  P.next_iff.mpr (.advance i x l s' l' hl h)

/-- Two steps of one worker in a row. -/
theorem next_moved {p : Pool S L} {i : ℕ} {s s' : S} {l l' : L} {x : I}
    (h : P.step s l x = some (s', l')) :
    P.next (p.moved i s l) (.advance i x) = some (p.moved i s' l') := by
  have hmoved : P.next (p.moved i s l) (.advance i x) = some ((p.moved i s l).moved i s' l') :=
    P.next_iff.mpr (.advance i x l s' l' Pool.moved_worker_self h)
  rwa [Pool.moved_moved] at hmoved

/-- A condition on the steps of workers: on the store, the worker's local state and its input. -/
def Guard (Q : S → L → I → Prop) (p : Pool S L) (label : Label C I) (_ : Pool S L) : Prop :=
  match label with
  | .start _ _ => True
  | .advance i x => ∀ l ∈ p.worker i, Q p.store l x

instance {Q : S → L → I → Prop} [∀ s l x, Decidable (Q s l x)] (p : Pool S L) (label : Label C I)
    (q : Pool S L) : Decidable (Guard Q p label q) := by
  unfold Guard
  cases label <;> infer_instance

/-- A condition on every worker at each step. -/
def Everyone (Q : Pool S L → Label C I → L → Prop) (p : Pool S L) (label : Label C I)
    (_ : Pool S L) : Prop :=
  ∀ j l, p.worker j = some l → Q p label l

/-- The condition on the first workers, and only these take a step. -/
def EveryoneBelow (bound : ℕ) (Q : Pool S L → Label C I → L → Prop) (p : Pool S L)
    (label : Label C I) (_ : Pool S L) : Prop :=
  label.worker < bound ∧ ∀ j < bound, ∀ l ∈ p.worker j, Q p label l

instance {bound : ℕ} {Q : Pool S L → Label C I → L → Prop} [∀ p label l, Decidable (Q p label l)]
    (p : Pool S L) (label : Label C I) (q : Pool S L) :
    Decidable (EveryoneBelow bound Q p label q) :=
  inferInstanceAs (Decidable (_ ∧ _))

/-- A proof outline: an invariant of the store, and an assertion for each worker that holds when
its call starts, is kept by its own steps and is not disturbed by the steps of the others. -/
structure Outline (inv : S → Prop) (asserts : ℕ → S → L → Prop) (Q : S → L → I → Prop) : Prop where
  start : ∀ i s c, inv s → asserts i s (P.start c)
  step : ∀ i s l x s' l', inv s → asserts i s l → Q s l x → P.step s l x = some (s', l') →
    inv s' ∧ asserts i s' l'
  stable : ∀ i j s l x s' l' m, inv s → asserts i s l → Q s l x →
    P.step s l x = some (s', l') → asserts j s m → asserts j s' m

/-- The states of a pool that an outline describes. -/
structure Holds (inv : S → Prop) (asserts : ℕ → S → L → Prop) (p : Pool S L) : Prop where
  store : inv p.store
  worker : ∀ i l, p.worker i = some l → asserts i p.store l

section Rule

variable {P} {inv : S → Prop} {asserts : ℕ → S → L → Prop} {Q : S → L → I → Prop}
  {p q : Pool S L} {label : Label C I} {labels : List (Label C I)}

theorem holds_initial {s : S} (hs : inv s) : Holds inv asserts (.initial s : Pool S L) :=
  ⟨hs, fun _ _ h => by cases h⟩

theorem Outline.holds_next (o : P.Outline inv asserts Q) (h : Holds inv asserts p)
    (hnext : P.next p label = some q) (hguard : Guard Q p label q) : Holds inv asserts q := by
  cases P.next_iff.mp hnext with
  | start i c idle =>
    refine ⟨h.store, fun j m hm => ?_⟩
    rcases Pool.moved_cases hm with ⟨rfl, rfl⟩ | ⟨-, hm⟩
    · exact o.start j p.store c h.store
    · exact h.worker j m hm
  | advance i x l s' l' hl hstep =>
    have hown := h.worker i l hl
    have hq := hguard l hl
    obtain ⟨hinv, hasserts⟩ := o.step i p.store l x s' l' h.store hown hq hstep
    refine ⟨hinv, fun j m hm => ?_⟩
    rcases Pool.moved_cases hm with ⟨rfl, rfl⟩ | ⟨-, hm⟩
    · exact hasserts
    · exact o.stable i j p.store l x s' l' m h.store hown hq hstep (h.worker j m hm)

/-- The invariant and the assertions hold after every run whose steps meet the condition. -/
theorem Outline.holds_run (o : P.Outline inv asserts Q) (h : Holds inv asserts p)
    (hguard : EveryStep P.next (Guard Q) p labels) (hrun : run P.next p labels = some q) :
    Holds inv asserts q :=
  invariant_of_everyStep (fun _ _ _ hp hnext hg => o.holds_next hp hnext hg) h hguard hrun

/-- What follows from the invariant and the assertions holds in every state of such a run. -/
theorem Outline.everyState (o : P.Outline inv asserts Q) {R : Pool S L → Prop}
    (himp : ∀ p, Holds inv asserts p → R p) (h : Holds inv asserts p)
    (hguard : EveryStep P.next (Guard Q) p labels) : EveryState P.next R p labels := by
  refine ⟨himp p h, EveryStep.of_invariant (I := Holds inv asserts) ?_ h hguard⟩
  intro _ _ _ hp hnext hg
  have hq := o.holds_next hp hnext hg
  exact ⟨hq, himp _ hq⟩

theorem everyStep_guard_true : EveryStep P.next (Guard fun _ _ _ => True) p labels := by
  refine everyStep_iff_prefixes.mpr fun _ label _ _ _ _ _ => ?_
  cases label with
  | start => trivial
  | advance => exact fun _ _ => trivial

/-- The workers from some number on stay without a call, if the step is none of theirs. -/
theorem idle_next {bound : ℕ} (h : ∀ i, bound ≤ i → p.worker i = none)
    (hnext : P.next p label = some q) :
    ∀ i, max bound (label.worker + 1) ≤ i → q.worker i = none := by
  intro j hj
  cases P.next_iff.mp hnext with
  | start i c =>
    simp only [Label.worker] at hj
    rw [Pool.moved_worker_of_ne (by omega)]
    exact h j (by omega)
  | advance i x l s' l' =>
    simp only [Label.worker] at hj
    rw [Pool.moved_worker_of_ne (by omega)]
    exact h j (by omega)

/-- In a run of the first workers, a condition on them is one on all. -/
theorem everyone_of_below {bound : ℕ} {Q : Pool S L → Label C I → L → Prop} {s : S}
    (h : EveryStep P.next (EveryoneBelow bound Q) (.initial s) labels) :
    EveryStep P.next (Everyone Q) (.initial s) labels := by
  refine EveryStep.of_invariant (I := fun p => ∀ i, bound ≤ i → p.worker i = none) ?_
    (fun _ _ => rfl) h
  rintro p label q hidle hnext ⟨hworker, hfirst⟩
  constructor
  · intro i hi
    exact idle_next hidle hnext i (by omega)
  · intro j l hl
    by_cases hj : j < bound
    · exact hfirst j hj l hl
    · rw [hidle j (by omega)] at hl
      cases hl

end Rule

end Program

end LotusAdvise.Workers

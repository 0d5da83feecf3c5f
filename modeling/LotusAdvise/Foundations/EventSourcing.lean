import Mathlib.Data.List.Basic
import Mathlib.Data.List.Chain
import Mathlib.Data.List.DropRight

/-! # Event-sourced aggregates

An aggregate whose state is a function of its log: some events create it in a state, and
every later event leads from one state to the next. The part of a log since its last
boundary event is what the current episode of the aggregate has recorded.
-/

namespace LotusAdvise

/-- Which events create an aggregate, and which lead from one state to another. -/
structure EventSourced (E σ : Type*) where
  start : E → σ → Prop
  next : σ → E → σ → Prop

namespace EventSourced

variable {E σ : Type*} (M : EventSourced E σ)

/-- The log leads to the state. -/
inductive Replays : List E → σ → Prop where
  | start {e : E} {s : σ} (h : M.start e s) : Replays [e] s
  | next {log : List E} {e : E} {s t : σ} (replays : Replays log s) (h : M.next s e t) :
    Replays (log ++ [e]) t

variable {M} {log : List E} {s : σ}

theorem Replays.ne_nil (h : M.Replays log s) : log ≠ [] := by
  cases h <;> simp

/-- The first event created the aggregate. -/
theorem Replays.exists_start (h : M.Replays log s) :
    ∃ e rest s₀, log = e :: rest ∧ M.start e s₀ := by
  induction h with
  | @start e s h => exact ⟨e, [], s, rfl, h⟩
  | next _ _ ih =>
    obtain ⟨e, rest, s₀, rfl, h⟩ := ih
    exact ⟨e, _, s₀, rfl, h⟩

/-- Consecutive events agree on the state between them, as long as each event determines the state
it leads to. -/
theorem Replays.isChain {R : E → E → Prop} (h : M.Replays log s) {p : E → σ → Prop}
    (hstart : ∀ e s, M.start e s → p e s) (hnext : ∀ s e t, M.next s e t → p e t)
    (hR : ∀ e s f t, p e s → M.next s f t → R e f) :
    log.IsChain R ∧ ∀ e ∈ log.getLast?, p e s := by
  induction h with
  | @start e s h =>
    refine ⟨List.isChain_singleton e, ?_⟩
    rintro _ ⟨⟩
    exact hstart e s h
  | @next log e s t _ h ih =>
    refine ⟨?_, ?_⟩
    · rw [List.isChain_append]
      refine ⟨ih.1, List.isChain_singleton e, ?_⟩
      rintro f hf _ ⟨⟩
      exact hR f s e t (ih.2 f hf) h
    · rw [List.getLast?_concat]
      rintro _ ⟨⟩
      exact hnext s e t h

/-- A quantity that every event changes by a known amount is the sum of these amounts. -/
theorem Replays.measure_eq {f : σ → ℕ} {p : E → Bool} {n : ℕ} (h : M.Replays log s)
    (hstart : ∀ e s, M.start e s → p e = false ∧ f s = n)
    (hnext : ∀ s e t, M.next s e t → f t = f s + (if p e then 1 else 0)) :
    f s = n + log.countP p := by
  induction h with
  | @start e s h =>
    obtain ⟨hp, hs⟩ := hstart e s h
    simp [hs, hp]
  | @next log e s t _ h ih =>
    rw [hnext s e t h, ih, List.countP_append, List.countP_singleton]
    omega

end EventSourced

/-- The events after the most recent boundary event. -/
def sinceLast {E : Type*} (boundary : E → Bool) (log : List E) : List E :=
  log.rtakeWhile fun e => !boundary e

section SinceLast

variable {E : Type*} {boundary : E → Bool} (log : List E) {e : E}

theorem sinceLast_concat_boundary (h : boundary e = true) :
    sinceLast boundary (log ++ [e]) = [] := by
  rw [sinceLast, List.rtakeWhile_concat_neg _ _ _ (by simp [h])]

theorem sinceLast_concat (h : boundary e = false) :
    sinceLast boundary (log ++ [e]) = sinceLast boundary log ++ [e] := by
  rw [sinceLast, List.rtakeWhile_concat_pos _ _ _ (by simp [h]), sinceLast]

end SinceLast

end LotusAdvise

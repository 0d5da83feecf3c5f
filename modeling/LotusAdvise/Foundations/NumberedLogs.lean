import Mathlib.Data.List.Infix
import Mathlib.Logic.Function.Basic

/-! # Numbered logs

The entries of a log carry the numbers from one on. A writer that has seen a prefix of the
log numbers its entry after that prefix; when the number is free, or is taken by the very
same entry, nobody has written an entry that the writer did not see.
-/

namespace LotusAdvise

variable {E I : Type*} {number : ℕ → I} {id : E → I} {log log' seen : List E} {e : E}

def Numbered (number : ℕ → I) (id : E → I) (log : List E) : Prop :=
  ∀ n e, log[n]? = some e → id e = number (n + 1)

theorem numbered_nil : Numbered number id [] := fun _ _ h => by cases h

theorem Numbered.concat (h : Numbered number id log) (he : id e = number (log.length + 1)) :
    Numbered number id (log ++ [e]) := by
  intro n f hf
  rw [List.getElem?_append] at hf
  split at hf
  · exact h n f hf
  · next hn =>
    rw [List.getElem?_singleton] at hf
    split at hf
    · next hlast =>
      obtain rfl := Option.some.inj hf
      rw [he, show n = log.length by omega]
    · cases hf

theorem Numbered.of_prefix (h : Numbered number id log) (hseen : seen <+: log) :
    Numbered number id seen := by
  obtain ⟨rest, rfl⟩ := hseen
  intro n e he
  refine h n e ?_
  rw [List.getElem?_append_left, he]
  exact (List.getElem?_eq_some_iff.mp he).1

/-- The number after the last one is free. -/
theorem Numbered.id_ne_next (h : Numbered number id log) (hinj : Function.Injective number)
    (he : e ∈ log) : id e ≠ number (log.length + 1) := by
  obtain ⟨n, hn, hget⟩ := List.getElem_of_mem he
  rw [h n e (List.getElem?_eq_some_iff.mpr ⟨hn, hget⟩)]
  intro heq
  have : n + 1 = log.length + 1 := hinj heq
  omega

/-- A writer whose number is free has seen the whole log. -/
theorem Numbered.eq_of_free (h : Numbered number id log) (hseen : seen <+: log)
    (hfree : ∀ e ∈ log, id e ≠ number (seen.length + 1)) : seen = log := by
  obtain ⟨rest, rfl⟩ := hseen
  cases rest with
  | nil => rw [List.append_nil]
  | cons e rest =>
    refine absurd (h seen.length e ?_) (hfree e (by simp))
    rw [List.getElem?_append_right le_rfl, Nat.sub_self, List.getElem?_cons_zero]

/-- A writer that missed one entry at most, and whose own entry is stored or finds its number free,
leaves the log that it has seen with its own entry. -/
theorem Numbered.eq_seen_concat (h : Numbered number id log) (hinj : Function.Injective number)
    (hseen : seen <+: log) (hcount : log.length ≤ seen.length + 1)
    (he : id e = number (seen.length + 1))
    (hwrite : e ∈ log ∧ log' = log ∨ (∀ f ∈ log, id f ≠ id e) ∧ log' = log ++ [e]) :
    log' = seen ++ [e] := by
  rcases hwrite with ⟨hmem, rfl⟩ | ⟨hfree, rfl⟩
  · have hnotSeen : e ∉ seen := fun hmem => (h.of_prefix hseen).id_ne_next hinj hmem he
    obtain ⟨rest, rfl⟩ := hseen
    have hrest : e ∈ rest := (List.mem_append.mp hmem).resolve_left hnotSeen
    rw [List.length_append] at hcount
    rcases rest with _ | ⟨f, _ | ⟨g, rest⟩⟩
    · cases hrest
    · rw [List.mem_singleton.mp hrest]
    · simp at hcount
  · rw [h.eq_of_free hseen (he ▸ hfree)]

/-- An entry with the number after what its writer has seen keeps the numbering. -/
theorem Numbered.write (h : Numbered number id log) (hseen : seen <+: log)
    (he : id e = number (seen.length + 1))
    (hwrite : e ∈ log ∧ log' = log ∨ (∀ f ∈ log, id f ≠ id e) ∧ log' = log ++ [e]) :
    Numbered number id log' := by
  rcases hwrite with ⟨-, rfl⟩ | ⟨hfree, rfl⟩
  · exact h
  · have hall := h.eq_of_free hseen (he ▸ hfree)
    exact h.concat (hall ▸ he)

section Keyed

variable {K : Type*} [DecidableEq K] {key : E → K}

/-- The entries of a log under each key are numbered. -/
def NumberedBy (number : ℕ → I) (key : E → K) (id : E → I) (log : List E) : Prop :=
  ∀ k, Numbered number id (log.filter fun e => key e = k)

theorem numberedBy_nil : NumberedBy number key id [] := fun _ => numbered_nil

theorem NumberedBy.concat (h : NumberedBy number key id log)
    (he : id e = number ((log.filter fun f => key f = key e).length + 1)) :
    NumberedBy number key id (log ++ [e]) := by
  intro k
  rw [List.filter_append]
  by_cases hk : key e = k
  · subst hk
    simpa using (h (key e)).concat he
  · simpa [hk] using h k

theorem NumberedBy.of_prefix (h : NumberedBy number key id log) (hseen : seen <+: log) :
    NumberedBy number key id seen :=
  fun k => Numbered.of_prefix (h k) (hseen.filter _)

/-- A writer that has seen all entries under each key has seen the whole log. -/
theorem eq_of_counts (hseen : seen <+: log)
    (hcount : ∀ e ∈ log, (log.filter fun f => key f = key e).length ≤
      (seen.filter fun f => key f = key e).length) : log = seen := by
  obtain ⟨rest, rfl⟩ := hseen
  rcases rest with _ | ⟨e, rest⟩
  · exact List.append_nil seen
  · have hlength := hcount e (by simp)
    rw [List.filter_append, List.length_append] at hlength
    have hpos : 0 < ((e :: rest).filter fun f => key f = key e).length :=
      List.length_pos_of_mem (List.mem_filter.mpr ⟨List.mem_cons_self, by simp⟩)
    omega

/-- A writer that has seen all entries but one, at most, under a certain key has seen all but the
last entry, at most. -/
theorem eq_or_concat_of_counts (hseen : seen <+: log) {k : K}
    (hcount : ∀ e ∈ log, (log.filter fun f => key f = key e).length ≤
      (seen.filter fun f => key f = key e).length + if key e = k then 1 else 0) :
    log = seen ∨ ∃ e, key e = k ∧ log = seen ++ [e] := by
  obtain ⟨rest, rfl⟩ := hseen
  have hrest : ∀ e ∈ rest, (rest.filter fun f => key f = key e).length ≤
      if key e = k then 1 else 0 := by
    intro e he
    have := hcount e (List.mem_append_right _ he)
    rw [List.filter_append, List.length_append] at this
    omega
  have hkey : ∀ e ∈ rest, key e = k := by
    intro e he
    by_contra hne
    have hpos : 0 < (rest.filter fun f => key f = key e).length :=
      List.length_pos_of_mem (List.mem_filter.mpr ⟨he, by simp⟩)
    have := hrest e he
    rw [if_neg hne] at this
    omega
  rcases rest with _ | ⟨e, _ | ⟨f, rest⟩⟩
  · exact .inl (List.append_nil seen)
  · exact .inr ⟨e, hkey e List.mem_cons_self, rfl⟩
  · have hboth := hrest e List.mem_cons_self
    rw [List.filter_eq_self.mpr fun g hg => by simp [hkey g hg, hkey e List.mem_cons_self],
      if_pos (hkey e List.mem_cons_self)] at hboth
    simp at hboth

/-- A writer that missed one entry at most, under the key of its own, and whose own entry is stored
or finds its number free leaves the log that it has seen with its own entry. -/
theorem NumberedBy.eq_seen_concat (h : NumberedBy number key id log)
    (hinj : Function.Injective number) (hseen : seen <+: log)
    (hcount : ∀ f ∈ log, (log.filter fun g => key g = key f).length ≤
      (seen.filter fun g => key g = key f).length + if key f = key e then 1 else 0)
    (he : id e = number ((seen.filter fun f => key f = key e).length + 1))
    (hwrite : e ∈ log ∧ log' = log ∨
      (∀ f ∈ log, key f = key e → id f ≠ id e) ∧ log' = log ++ [e]) :
    log' = seen ++ [e] := by
  have hnotSeen : e ∉ seen := by
    intro hmem
    have hown : Numbered number id (seen.filter fun f => key f = key e) :=
      Numbered.of_prefix (h (key e)) (hseen.filter _)
    exact hown.id_ne_next hinj (List.mem_filter.mpr ⟨hmem, by simp⟩) he
  rcases eq_or_concat_of_counts hseen hcount with rfl | ⟨f, hf, rfl⟩
  · rcases hwrite with ⟨hmem, -⟩ | ⟨-, rfl⟩
    · exact absurd hmem hnotSeen
    · rfl
  · rcases hwrite with ⟨hmem, rfl⟩ | ⟨hfree, rfl⟩
    · rcases List.mem_append.mp hmem with hmem | hmem
      · exact absurd hmem hnotSeen
      · rw [List.mem_singleton.mp hmem]
    · -- the missed entry has the number
      refine absurd ?_ (hfree f (by simp) hf)
      rw [he]
      refine h (key e) (seen.filter fun f => key f = key e).length f ?_
      rw [List.filter_append, List.getElem?_append_right le_rfl, Nat.sub_self]
      simp [hf]

end Keyed

end LotusAdvise

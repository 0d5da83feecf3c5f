import Mathlib.Data.List.Basic
import Mathlib.Data.List.Infix

/-! # Words of a text

The words of a text are its longest stretches without separators, and a text is joined
from words with one separator between any two of them. Joining loses nothing: words that
are not empty and have no separator in them are the words of the text joined from them.
-/

namespace LotusAdvise.Words

variable {α : Type*} {separates : α → Bool} {xs ys w v : List α} {ws vs : List (List α)}

/-- The words of a text, as `str.split` returns them. -/
def words (separates : α → Bool) (xs : List α) : List (List α) :=
  (xs.splitOnP separates).filter fun part => !part.isEmpty

/-- `separator.join(words)`. -/
def joined (separator : α) (ws : List (List α)) : List α := [separator].intercalate ws

/-- The last separator of a text splits it in one way. -/
theorem append_separator_inj {separator : α} (hxs : separator ∉ xs) (hys : separator ∉ ys)
    (h : w ++ separator :: xs = v ++ separator :: ys) : w = v ∧ xs = ys := by
  rcases List.append_eq_append_iff.mp h with ⟨rest, hrest, htail⟩ | ⟨rest, hrest, htail⟩ <;>
    rcases rest with _ | ⟨c, rest⟩
  · exact ⟨by rw [hrest, List.append_nil], (List.cons.inj htail).2⟩
  · exact absurd (by rw [(List.cons.inj htail).2]; simp) hxs
  · exact ⟨by rw [hrest, List.append_nil], (List.cons.inj htail).2.symm⟩
  · exact absurd (by rw [(List.cons.inj htail).2]; simp) hys

theorem mem_splitOnP (h : w ∈ xs.splitOnP separates) : ∀ x ∈ w, separates x = false := by
  induction xs generalizing w with
  | nil =>
    obtain rfl := List.mem_singleton.mp h
    simp
  | cons x xs ih =>
    rw [List.splitOnP_cons_eq_if_modifyHead] at h
    split at h
    · rcases List.mem_cons.mp h with rfl | h
      · simp
      · exact ih h
    · next hx =>
      obtain ⟨part, parts, hparts⟩ := List.exists_cons_of_ne_nil (List.splitOnP_ne_nil separates xs)
      rw [hparts, List.modifyHead_cons] at h
      rw [hparts] at ih
      rcases List.mem_cons.mp h with rfl | h
      · intro y hy
        rcases List.mem_cons.mp hy with rfl | hy
        · exact Bool.eq_false_iff.mpr hx
        · exact ih List.mem_cons_self y hy
      · exact ih (List.mem_cons_of_mem _ h)

theorem subset_of_mem_splitOnP (h : w ∈ xs.splitOnP separates) : w ⊆ xs := by
  induction xs generalizing w with
  | nil =>
    obtain rfl := List.mem_singleton.mp h
    simp
  | cons x xs ih =>
    obtain ⟨part, parts, hparts⟩ := List.exists_cons_of_ne_nil (List.splitOnP_ne_nil separates xs)
    rw [List.splitOnP_cons_eq_if_modifyHead, hparts] at h
    rw [hparts] at ih
    split at h
    · rcases List.mem_cons.mp h with rfl | h
      · simp
      · exact List.Subset.trans (ih h) (List.subset_cons_self x xs)
    · rw [List.modifyHead_cons] at h
      rcases List.mem_cons.mp h with rfl | h
      · exact List.cons_subset_cons x (ih List.mem_cons_self)
      · exact List.Subset.trans (ih (List.mem_cons_of_mem _ h)) (List.subset_cons_self x xs)

/-- Words are not empty, and have no separator in them. -/
theorem mem_words (h : w ∈ words separates xs) : w ≠ [] ∧ ∀ x ∈ w, separates x = false := by
  obtain ⟨hpart, hne⟩ := List.mem_filter.mp h
  exact ⟨by simpa using hne, mem_splitOnP hpart⟩

theorem subset_of_mem_words (h : w ∈ words separates xs) : w ⊆ xs :=
  subset_of_mem_splitOnP (List.mem_of_mem_filter h)

/-- A separator divides the words of a text into those before and those after it. -/
theorem words_append_cons {x : α} (hx : separates x) :
    words separates (xs ++ x :: ys) = words separates xs ++ words separates ys := by
  rw [words, List.splitOnP_append_cons _ _ hx, List.filter_append, words, words]

theorem words_singleton (hne : xs ≠ []) (h : ∀ x ∈ xs, separates x = false) :
    words separates xs = [xs] := by
  rw [words, List.splitOnP_eq_singleton h, List.filter_cons_of_pos (by simpa using hne),
    List.filter_nil]

@[simp] theorem words_nil : words separates [] = [] := rfl

@[simp] theorem joined_nil (separator : α) : joined separator [] = [] := rfl

@[simp] theorem joined_singleton (separator : α) : joined separator [w] = w :=
  List.intercalate_singleton

theorem joined_cons (separator : α) (hne : ws ≠ []) :
    joined separator (w :: ws) = w ++ separator :: joined separator ws := by
  rw [joined, List.intercalate_cons_of_ne_nil hne]
  simp [joined]

theorem joined_append (separator : α) (hws : ws ≠ []) (hvs : vs ≠ []) :
    joined separator (ws ++ vs) = joined separator ws ++ separator :: joined separator vs := by
  induction ws with
  | nil => exact absurd rfl hws
  | cons w ws ih =>
    rcases eq_or_ne ws [] with rfl | hne
    · rw [List.singleton_append, joined_cons _ hvs, joined_singleton]
    · rw [List.cons_append, joined_cons _ (by simp [hne]), ih hne, joined_cons _ hne,
        List.append_assoc, List.cons_append]

/-- The words of a joined text are the words that it was joined from. -/
theorem words_joined_of {separator : α} (hsep : separates separator = true)
    (h : ∀ w ∈ ws, w ≠ [] ∧ ∀ x ∈ w, separates x = false) :
    words separates (joined separator ws) = ws := by
  induction ws with
  | nil => rfl
  | cons w ws ih =>
    obtain ⟨hne, hplain⟩ := h w List.mem_cons_self
    have hword : words separates w = [w] := words_singleton hne hplain
    have hrest := ih fun v hv => h v (List.mem_cons_of_mem _ hv)
    rcases eq_or_ne ws [] with rfl | hws
    · rw [joined_singleton, hword]
    · rw [joined_cons _ hws, words_append_cons hsep, hword, hrest, List.singleton_append]

theorem words_joined [DecidableEq α] {separator : α}
    (h : ∀ w ∈ ws, w ≠ [] ∧ separator ∉ w) :
    words (fun x => decide (x = separator)) (joined separator ws) = ws := by
  refine words_joined_of (decide_eq_true rfl) fun w hw => ⟨(h w hw).1, fun x hx => ?_⟩
  rw [decide_eq_false_iff_not]
  rintro rfl
  exact (h w hw).2 hx

theorem joined_injective [DecidableEq α] {separator : α}
    (hws : ∀ w ∈ ws, w ≠ [] ∧ separator ∉ w) (hvs : ∀ v ∈ vs, v ≠ [] ∧ separator ∉ v)
    (h : joined separator ws = joined separator vs) : ws = vs := by
  rw [← words_joined hws, h, words_joined hvs]

/-- A joined text starts as its first word does. -/
theorem head?_joined (separator : α) (hne : ∀ w ∈ ws, w ≠ []) {x : α}
    (h : (joined separator ws).head? = some x) : ∃ w ∈ ws, x ∈ w := by
  cases ws with
  | nil => cases h
  | cons w ws =>
    obtain ⟨y, rest, rfl⟩ := List.exists_cons_of_ne_nil (hne w List.mem_cons_self)
    have hy : (joined separator ((y :: rest) :: ws)).head? = some y := by
      rcases eq_or_ne ws [] with rfl | hws
      · rw [joined_singleton, List.head?_cons]
      · rw [joined_cons _ hws, List.cons_append, List.head?_cons]
    rw [hy] at h
    obtain rfl := Option.some.inj h
    exact ⟨_, List.mem_cons_self, List.mem_cons_self⟩

theorem mem_joined {separator x : α} (h : x ∈ joined separator ws) :
    x = separator ∨ ∃ w ∈ ws, x ∈ w := by
  induction ws with
  | nil => cases h
  | cons w ws ih =>
    rcases eq_or_ne ws [] with rfl | hws
    · rw [joined_singleton] at h
      exact .inr ⟨w, List.mem_cons_self, h⟩
    · rw [joined_cons _ hws, List.mem_append, List.mem_cons] at h
      rcases h with h | rfl | h
      · exact .inr ⟨w, List.mem_cons_self, h⟩
      · exact .inl rfl
      · exact (ih h).imp_right fun ⟨v, hv, hx⟩ => ⟨v, List.mem_cons_of_mem _ hv, hx⟩

/-- A text without separators is its only word. -/
theorem joined_words_of_forall (separator : α) (h : ∀ x ∈ xs, separates x = false) :
    joined separator (words separates xs) = xs := by
  rcases eq_or_ne xs [] with rfl | hne
  · rfl
  · rw [words_singleton hne h, joined_singleton]

/-- Joining the words of a text adds nothing to its length. -/
theorem length_joined_words_le (separator : α) :
    (joined separator (words separates xs)).length ≤ xs.length := by
  induction hlength : xs.length using Nat.strongRecOn generalizing xs with
  | ind n ih =>
    by_cases hplain : ∀ x ∈ xs, separates x = false
    · rw [joined_words_of_forall separator hplain, hlength]
    · obtain ⟨x, hx, hsep⟩ := not_forall₂.mp hplain
      obtain ⟨ys, zs, rfl⟩ := List.append_of_mem hx
      rw [List.length_append, List.length_cons] at hlength
      rw [words_append_cons (Bool.not_eq_false _ ▸ hsep)]
      have hys := ih ys.length (by omega) rfl
      have hzs := ih zs.length (by omega) rfl
      rcases eq_or_ne (words separates ys) [] with hnil | hws
      · rw [hnil, List.nil_append]
        omega
      rcases eq_or_ne (words separates zs) [] with hnil | hvs
      · rw [hnil, List.append_nil]
        omega
      · rw [joined_append _ hws hvs, List.length_append, List.length_cons]
        omega

end LotusAdvise.Words

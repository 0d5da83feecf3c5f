import Mathlib.Data.List.Basic
import Mathlib.Data.List.Count
import Mathlib.Data.List.Infix
import Mathlib.Data.List.Nodup

/-! # Walks over the pages of a listing

A walk goes through the entries of a listing page by page and resumes each time after the
last entry of the page before. Which entries match may change between two pages. The walk
is accounted for when every entry that has matched all along was returned once if it lies
at or before the place where the walk resumes, and not at all otherwise.
-/

namespace LotusAdvise.Pagination

variable {ι : Type*}

/-- Where a walk stands: it asks for a page next, or has seen the last one. -/
inductive Progress (ι : Type*) where
  | next (cursor : Option ι)
  | finished
deriving DecidableEq

/-- The cursor that comes with a page. -/
def Progress.ofCursor : Option ι → Progress ι
  | some cursor => .next (some cursor)
  | none => .finished

/-- The cursor of the page after this one, out of the entries from which the page is taken. -/
def nextCursor (matched : List ι) (limit : ℕ) : Option ι :=
  if matched.length ≤ limit then none else (matched.take limit).getLast?

section Pages

variable {rest : List ι} {p : ι → Bool} {limit : ℕ} {cursor : ι}

/-- A page with a cursor holds the matching entries up to the cursor. -/
theorem page_upTo (h : nextCursor (rest.filter p) limit = some cursor) :
    ∃ pre post, rest = pre ++ cursor :: post ∧
      (rest.filter p).take limit = (pre ++ [cursor]).filter p := by
  unfold nextCursor at h
  split at h
  · cases h
  · obtain ⟨init, hinit⟩ := List.getLast?_eq_some_iff.mp h
    have hsplit : rest.filter p = init ++ cursor :: (rest.filter p).drop limit := by
      conv_lhs => rw [← List.take_append_drop limit (rest.filter p), hinit]
      simp
    obtain ⟨l₁, l₂, hrest, hl₁, hl₂⟩ := List.filter_eq_append_iff.mp hsplit
    obtain ⟨m₁, m₂, rfl, hm₁, hcursor, -⟩ := List.filter_eq_cons_iff.mp hl₂
    refine ⟨l₁ ++ m₁, m₂, by rw [hrest, List.append_assoc], ?_⟩
    have hskip : m₁.filter p = [] := List.filter_eq_nil_iff.mpr hm₁
    rw [hinit, List.filter_append, List.filter_append, hl₁, hskip, List.append_nil,
      List.filter_cons_of_pos hcursor, List.filter_nil]

theorem mem_of_nextCursor {matched : List ι} (h : nextCursor matched limit = some cursor) :
    cursor ∈ matched := by
  unfold nextCursor at h
  split at h
  · cases h
  · exact List.mem_of_mem_take (List.mem_of_getLast? h)

theorem page_last (h : nextCursor (rest.filter p) limit = none) (hlimit : 0 < limit) :
    (rest.filter p).take limit = rest.filter p := by
  unfold nextCursor at h
  split at h
  · next hlength => exact List.take_of_length_le hlength
  · next hlength =>
    rw [List.getLast?_eq_none_iff, List.take_eq_nil_iff] at h
    rcases h with hzero | hnil
    · omega
    · rw [hnil] at hlength
      simp at hlength

end Pages

variable [DecidableEq ι]

/-- The entries after a cursor. -/
def after (cursor : ι) : List ι → List ι
  | [] => []
  | x :: xs => if x = cursor then xs else after cursor xs

/-- The entries from the place where a walk resumes. -/
def Progress.todo (entries : List ι) : Progress ι → List ι
  | .next none => entries
  | .next (some cursor) => after cursor entries
  | .finished => []

section After

variable {cursor : ι} {entries pre post : List ι} {p : ι → Bool}

theorem after_append (h : cursor ∉ pre) : after cursor (pre ++ cursor :: post) = post := by
  induction pre with
  | nil => rw [List.nil_append, after, if_pos rfl]
  | cons x pre ih =>
    rw [List.mem_cons, not_or] at h
    rw [List.cons_append, after, if_neg (Ne.symm h.1), ih h.2]

theorem after_of_notMem (h : cursor ∉ entries) : after cursor entries = [] := by
  induction entries with
  | nil => rfl
  | cons x entries ih =>
    rw [List.mem_cons, not_or] at h
    rw [after, if_neg (Ne.symm h.1), ih h.2]

theorem after_suffix : after cursor entries <:+ entries := by
  by_cases h : cursor ∈ entries
  · obtain ⟨pre, post, rfl, hpre⟩ := List.eq_append_cons_of_mem h
    rw [after_append hpre]
    exact ⟨pre ++ [cursor], by simp⟩
  · rw [after_of_notMem h]
    exact List.nil_suffix

theorem after_filter (h : p cursor) : after cursor (entries.filter p) =
    (after cursor entries).filter p := by
  induction entries with
  | nil => rfl
  | cons x entries ih =>
    by_cases hx : x = cursor
    · subst hx
      rw [List.filter_cons_of_pos h, after, after, if_pos rfl, if_pos rfl]
    · rw [after, if_neg hx, ← ih, List.filter_cons]
      split
      · rw [after, if_neg hx]
      · rfl

/-- In a listing that descends, the entries after a cursor are those below its row. -/
theorem after_eq_filter {α : Type*} {key : α → ι} {rows : List α} {row : α} {below : α → α → Bool}
    (hdesc : rows.Pairwise fun a b => below b a) (hasymm : ∀ a b, below a b → ¬ below b a)
    (hn : (rows.map key).Nodup) (h : row ∈ rows) :
    after (key row) (rows.map key) = (rows.filter fun other => below other row).map key := by
  obtain ⟨pre, post, rfl⟩ := List.append_of_mem h
  rw [List.map_append, List.map_cons] at hn ⊢
  have hpre : key row ∉ pre.map key := fun hin =>
    (List.nodup_append.mp hn).2.2 _ hin _ List.mem_cons_self rfl
  obtain ⟨-, hpost, hcross⟩ := List.pairwise_append.mp hdesc
  have habove : pre.filter (fun other => below other row) = [] := by
    rw [List.filter_eq_nil_iff]
    intro other hother
    exact hasymm _ _ (hcross other hother row List.mem_cons_self)
  have hself : ¬ below row row := fun hself => hasymm _ _ hself hself
  have hbelow : post.filter (fun other => below other row) = post := by
    rw [List.filter_eq_self]
    exact (List.pairwise_cons.mp hpost).1
  rw [after_append hpre, List.filter_append, habove, List.nil_append, List.filter_cons_of_neg,
    hbelow]
  exact hself

end After

section Accounts

variable {entries rest steady returned : List ι} {p : ι → Bool} {limit : ℕ}
  {progress : Progress ι}

/-- Every steady entry is listed, and was returned once unless the walk has yet to come to it. -/
def Accounted (entries steady returned : List ι) (progress : Progress ι) : Prop :=
  ∀ x ∈ steady, x ∈ entries ∧ returned.count x = if x ∈ progress.todo entries then 0 else 1

theorem accounted_start (h : steady ⊆ entries) : Accounted entries steady [] (.next none) :=
  fun _ hx => ⟨h hx, by rw [Progress.todo, if_pos (h hx), List.count_nil]⟩

theorem Accounted.subset {fewer : List ι} (h : Accounted entries steady returned progress)
    (hsubset : fewer ⊆ steady) : Accounted entries fewer returned progress :=
  fun x hx => h x (hsubset hx)

/-- A page keeps the account when it is taken from where the walk resumes, as far as the steady
entries are concerned. -/
theorem Accounted.page (h : Accounted entries steady returned progress) (hn : entries.Nodup)
    (hlimit : 0 < limit) (hp : ∀ x ∈ steady, p x) (hsuffix : rest <:+ entries)
    (hrest : ∀ x ∈ steady, x ∈ rest ↔ x ∈ progress.todo entries) :
    Accounted entries steady (returned ++ (rest.filter p).take limit)
      (.ofCursor (nextCursor (rest.filter p) limit)) := by
  intro x hx
  obtain ⟨hmem, hcount⟩ := h x hx
  refine ⟨hmem, ?_⟩
  rw [List.count_append, hcount]
  simp only [← hrest x hx]
  obtain ⟨before, rfl⟩ := hsuffix
  have hnrest := (List.nodup_append.mp hn).2.1
  rcases hnext : nextCursor (rest.filter p) limit with _ | cursor
  · -- the last page: all matching entries of the rest
    rw [page_last hnext hlimit, List.count_filter (hp x hx), Progress.ofCursor, Progress.todo,
      if_neg List.not_mem_nil]
    split
    · next hin => rw [List.count_eq_one_of_mem hnrest hin]
    · next hout => rw [List.count_eq_zero_of_not_mem hout]
  · obtain ⟨pre, post, rfl, hpage⟩ := page_upTo hnext
    have hfresh : cursor ∉ before ++ pre := by
      rw [← List.append_assoc] at hn
      intro hin
      exact (List.nodup_append.mp hn).2.2 _ hin _ List.mem_cons_self rfl
    rw [hpage, List.count_filter (hp x hx), Progress.ofCursor, Progress.todo, ← List.append_assoc,
      after_append hfresh]
    rw [show pre ++ cursor :: post = (pre ++ [cursor]) ++ post by simp] at hnrest ⊢
    obtain ⟨hnpre, -, hdisjoint⟩ := List.nodup_append.mp hnrest
    by_cases hpost : x ∈ post
    · have hout : x ∉ pre ++ [cursor] := fun hin => hdisjoint _ hin _ hpost rfl
      rw [if_pos (List.mem_append_right _ hpost), if_pos hpost, List.count_eq_zero_of_not_mem hout]
    · rw [if_neg hpost]
      by_cases hpre : x ∈ pre ++ [cursor]
      · rw [if_pos (List.mem_append_left _ hpre), List.count_eq_one_of_mem hnpre hpre]
      · rw [if_neg (by rw [List.mem_append]; exact not_or.mpr ⟨hpre, hpost⟩),
          List.count_eq_zero_of_not_mem hpre]

end Accounts

end LotusAdvise.Pagination

import Mathlib.Data.List.Infix
import Mathlib.Data.Option.Basic

/-! # Groups with a single active member

Activating a member of a group supersedes the one that was active before. From states with
at most one active member in each group, the active member of a group is the one that was
activated last.
-/

namespace LotusAdvise

variable {G M S : Type*} [DecidableEq G] [DecidableEq M] [DecidableEq S] {active superseded : S}

/-- The states of the members, by group, after one of them became active. -/
def activateMember (active superseded : S) (states : G × M → Option S) (member : G × M) :
    G × M → Option S := fun other =>
  if other = member then some active
  else if other.1 = member.1 ∧ states other = some active then some superseded
  else states other

def statesAfter (active superseded : S) (states : G × M → Option S) (activations : List (G × M)) :
    G × M → Option S :=
  activations.foldl (activateMember active superseded) states

/-- At most one member of each group is active. -/
def SingleActive (active : S) (states : G × M → Option S) : Prop :=
  ∀ a b, a.1 = b.1 → states a = some active → states b = some active → a = b

variable {states : G × M → Option S} {member other : G × M} {activations : List (G × M)}

@[simp] theorem activateMember_self :
    activateMember active superseded states member member = some active := if_pos rfl

theorem statesAfter_concat : statesAfter active superseded states (activations ++ [member]) =
    activateMember active superseded (statesAfter active superseded states activations) member := by
  rw [statesAfter, List.foldl_append]
  rfl

/-- Nobody else in the group stays active. -/
theorem eq_of_activateMember (hne : superseded ≠ active) (hgroup : other.1 = member.1)
    (h : activateMember active superseded states member other = some active) : other = member := by
  unfold activateMember at h
  split at h
  · assumption
  · split at h
    · exact absurd (Option.some.inj h) hne
    · next hactive => exact absurd ⟨hgroup, h⟩ hactive

theorem activateMember_of_ne (hgroup : other.1 ≠ member.1) :
    activateMember active superseded states member other = states other := by
  rw [activateMember, if_neg (fun h => hgroup (congrArg Prod.fst h)), if_neg fun h => hgroup h.1]

theorem isSome_activateMember (hmember : (states member).isSome) :
    (activateMember active superseded states member other).isSome = (states other).isSome := by
  unfold activateMember
  split
  · next heq => rw [heq, hmember, Option.isSome_some]
  · split
    · next h => rw [h.2, Option.isSome_some, Option.isSome_some]
    · rfl

theorem SingleActive.activateMember (h : SingleActive active states) (hne : superseded ≠ active) :
    SingleActive active (activateMember active superseded states member) := by
  intro a b hgroup ha hb
  by_cases hmember : a.1 = member.1
  · rw [eq_of_activateMember hne hmember ha,
      eq_of_activateMember hne (hgroup.symm.trans hmember) hb]
  · rw [activateMember_of_ne hmember] at ha
    rw [activateMember_of_ne (hgroup ▸ hmember)] at hb
    exact h a b hgroup ha hb

theorem SingleActive.statesAfter (h : SingleActive active states) (hne : superseded ≠ active) :
    SingleActive active (statesAfter active superseded states activations) := by
  induction activations using List.reverseRecOn with
  | nil => exact h
  | append_singleton activations member ih =>
    rw [statesAfter_concat]
    exact ih.activateMember hne

/-- Activations of known members keep the members known. -/
theorem isSome_statesAfter (h : ∀ member ∈ activations, (states member).isSome) :
    (statesAfter active superseded states activations other).isSome = (states other).isSome := by
  induction activations using List.reverseRecOn generalizing other with
  | nil => rfl
  | append_singleton activations member ih =>
    have hbefore : ∀ member ∈ activations, (states member).isSome := by
      intro member hmember
      exact h member (List.mem_append_left _ hmember)
    rw [statesAfter_concat, isSome_activateMember, ih hbefore]
    rw [ih hbefore]
    exact h member (by simp)

/-- The member of a group that was activated last is active. -/
theorem statesAfter_getLast? {g : G}
    (h : member ∈ (activations.filter fun member => member.1 = g).getLast?) :
    statesAfter active superseded states activations member = some active := by
  induction activations using List.reverseRecOn with
  | nil => cases h
  | append_singleton activations last ih =>
    rw [List.filter_append] at h
    rw [statesAfter_concat]
    by_cases hg : last.1 = g
    · simp only [List.filter_singleton, hg, decide_true, cond_true, List.getLast?_concat] at h
      rw [← Option.some.inj h, activateMember_self]
    · simp only [List.filter_singleton, hg, decide_false, cond_false, List.append_nil] at h
      have hmember : member.1 = g := by
        simpa using List.of_mem_filter (List.mem_of_getLast? h)
      rw [activateMember_of_ne (by rw [hmember]; exact Ne.symm hg)]
      exact ih h

end LotusAdvise

import LotusAdvise.Foundations.Runs
import Mathlib.Logic.Function.Basic

/-! # Interleaved read-then-write commands

A command reads the shared store once and decides on a list of writes; each write is
atomic, and between the read and the writes other commands may take their own steps.
A pool runs any number of such commands. Its safety properties follow from an invariant
of the store and an assertion for each thread that the other threads do not disturb.
-/

namespace LotusAdvise.Interleaving

open Runs

/-- What a command decides after its read: a plain reply, or writes and then a reply. -/
inductive Outcome (W R : Type*) where
  | reply (response : R)
  | write (first : W) (rest : List W) (response : R)

/-- Commands over a store. Two commands that are not `apart` never run in one pool. -/
structure Protocol (S C W R E : Type*) where
  decide : S → C → Except E (Outcome W R)
  perform : S → W → Except E S
  apart : C → C → Bool

inductive Thread (C W R E : Type*) where
  | idle
  | reading (command : C)
  | writing (command : C) (next : W) (rest : List W) (response : R)
  | returned (command : C) (response : R)
  | raised (command : C) (error : E)

inductive Label (C : Type*) where
  | start (thread : ℕ) (command : C)
  | advance (thread : ℕ)

structure Pool (S C W R E : Type*) where
  store : S
  thread : ℕ → Thread C W R E
  started : List C

variable {S C W R E : Type*}

/-- The commands of a protocol that arise from other data. -/
def Protocol.comap {D : Type*} (P : Protocol S C W R E) (f : D → C) : Protocol S D W R E where
  decide s d := P.decide s (f d)
  perform := P.perform
  apart a b := P.apart (f a) (f b)

namespace Thread

def command? : Thread C W R E → Option C
  | idle => none
  | reading c => some c
  | writing c _ _ _ => some c
  | returned c _ => some c
  | raised c _ => some c

def isIdle : Thread C W R E → Bool
  | idle => true
  | _ => false

theorem isIdle_iff {t : Thread C W R E} : t.isIdle = true ↔ t = idle := by
  cases t <;> simp [isIdle]

/-- The thread after its read. -/
def afterRead (c : C) : Except E (Outcome W R) → Thread C W R E
  | .error e => raised c e
  | .ok (.reply r) => returned c r
  | .ok (.write w rest r) => writing c w rest r

/-- The thread after one of its writes went through. -/
def afterWrite (c : C) : List W → R → Thread C W R E
  | [], r => returned c r
  | w :: rest, r => writing c w rest r

@[simp] theorem command?_afterRead (c : C) (d : Except E (Outcome W R)) :
    (afterRead c d).command? = some c := by
  rcases d with e | r | ⟨w, rest, r⟩ <;> rfl

@[simp] theorem command?_afterWrite (c : C) (rest : List W) (r : R) :
    (afterWrite c rest r : Thread C W R E).command? = some c := by
  cases rest <;> rfl

end Thread

namespace Pool

def initial (s : S) : Pool S C W R E := ⟨s, fun _ => .idle, []⟩

/-- The pool with one thread replaced. -/
def set (p : Pool S C W R E) (i : ℕ) (t : Thread C W R E) : Pool S C W R E :=
  { p with thread := Function.update p.thread i t }

variable (p : Pool S C W R E) (i : ℕ) (t : Thread C W R E)

@[simp] theorem set_store : (p.set i t).store = p.store := rfl

@[simp] theorem set_started : (p.set i t).started = p.started := rfl

@[simp] theorem set_thread_self : (p.set i t).thread i = t := Function.update_self ..

theorem set_thread_of_ne {j : ℕ} (h : j ≠ i) : (p.set i t).thread j = p.thread j :=
  Function.update_of_ne h ..

end Pool

/-- The store after writes of other commands; those that are refused change nothing. -/
def commitAll (perform : S → W → Except E S) (s : S) : List W → S
  | [] => s
  | w :: ws =>
    match perform s w with
    | .ok s' => commitAll perform s' ws
    | .error _ => commitAll perform s ws

/-- What each write of the others keeps holds after all of them. -/
theorem commitAll_invariant {perform : S → W → Except E S} {I : S → Prop} {s : S} {ws : List W}
    (hs : I s) (keep : ∀ s w s', w ∈ ws → I s → perform s w = .ok s' → I s') :
    I (commitAll perform s ws) := by
  induction ws generalizing s with
  | nil => exact hs
  | cons w ws ih =>
    have later : ∀ s w' s', w' ∈ ws → I s → perform s w' = .ok s' → I s' := by
      intro s w' s' hmem
      exact keep s w' s' (List.mem_cons_of_mem w hmem)
    rw [commitAll]
    split
    · next s' hw => exact ih (keep s w s' List.mem_cons_self hs hw) later
    · exact ih hs later

namespace Protocol

variable (P : Protocol S C W R E)

/-- One step of a pool: a command starts on an idle thread, or a thread takes its next step. -/
def step (p : Pool S C W R E) : Label C → Option (Pool S C W R E)
  | .start i c =>
    if (p.thread i).isIdle ∧ p.started.all fun d => P.apart c d && P.apart d c then
      some { p.set i (.reading c) with started := c :: p.started }
    else none
  | .advance i =>
    match p.thread i with
    | .reading c => some (p.set i (.afterRead c (P.decide p.store c)))
    | .writing c w rest r =>
      match P.perform p.store w with
      | .ok s => some { p.set i (.afterWrite c rest r) with store := s }
      | .error e => some (p.set i (.raised c e))
    | _ => none

/-- Everything one step of a pool can be. -/
inductive Steps (p : Pool S C W R E) : Label C → Pool S C W R E → Prop where
  | start (i : ℕ) (c : C) (idle : p.thread i = .idle)
      (fresh : ∀ d ∈ p.started, P.apart c d ∧ P.apart d c) :
      Steps p (.start i c) { p.set i (.reading c) with started := c :: p.started }
  | read (i : ℕ) (c : C) (thread : p.thread i = .reading c) :
      Steps p (.advance i) (p.set i (.afterRead c (P.decide p.store c)))
  | write (i : ℕ) (c : C) (w : W) (rest : List W) (r : R) (s : S)
      (thread : p.thread i = .writing c w rest r) (done : P.perform p.store w = .ok s) :
      Steps p (.advance i) { p.set i (.afterWrite c rest r) with store := s }
  | fail (i : ℕ) (c : C) (w : W) (rest : List W) (r : R) (e : E)
      (thread : p.thread i = .writing c w rest r) (refused : P.perform p.store w = .error e) :
      Steps p (.advance i) (p.set i (.raised c e))

theorem steps_of_step {p q : Pool S C W R E} {l : Label C} (h : P.step p l = some q) :
    P.Steps p l q := by
  cases l with
  | start i c =>
    simp only [step] at h
    split at h
    · next hc =>
      cases h
      refine .start i c (Thread.isIdle_iff.mp hc.1) fun d hd => ?_
      simpa using List.all_eq_true.mp hc.2 d hd
    · cases h
  | advance i =>
    simp only [step] at h
    split at h
    · next c hc => cases h; exact .read i c hc
    · next c w rest r hc =>
      split at h
      · next s hs => cases h; exact .write i c w rest r s hc hs
      · next e he => cases h; exact .fail i c w rest r e hc he
    · cases h

/-- A command that has returned stays returned. -/
theorem returned_of_step {p q : Pool S C W R E} {l : Label C} (h : P.step p l = some q) {j : ℕ}
    {c : C} {r : R} (hj : p.thread j = .returned c r) : q.thread j = .returned c r := by
  have other : ∀ (i : ℕ) (t : Thread C W R E), p.thread i ≠ .returned c r →
      (p.set i t).thread j = .returned c r := by
    intro i t hi
    rwa [Pool.set_thread_of_ne]
    rintro rfl
    exact hi hj
  cases P.steps_of_step h with
  | start i d idle fresh => exact other i _ (by rw [idle]; nofun)
  | read i d thread => exact other i _ (by rw [thread]; nofun)
  | write i d w rest r s thread done => exact other i _ (by rw [thread]; nofun)
  | fail i d w rest r e thread refused => exact other i _ (by rw [thread]; nofun)

/-- Commands of different threads of a pool are apart, and all of them are on record. -/
structure Separated (p : Pool S C W R E) : Prop where
  recorded : ∀ i c, (p.thread i).command? = some c → c ∈ p.started
  apart : ∀ i j c d, i ≠ j → (p.thread i).command? = some c → (p.thread j).command? = some d →
    P.apart c d = true

theorem separated_initial (s : S) : P.Separated (.initial s) where
  recorded _ _ h := by simp [Pool.initial, Thread.command?] at h
  apart _ _ _ _ _ h := by simp [Pool.initial, Thread.command?] at h

/-- Replacing a thread by a later phase of the same command keeps the commands separated. -/
theorem Separated.set {P : Protocol S C W R E} {p : Pool S C W R E} (h : P.Separated p) {i : ℕ}
    {c : C} {t : Thread C W R E} (hi : (p.thread i).command? = some c)
    (ht : t.command? = some c) (s : S) : P.Separated { p.set i t with store := s } := by
  have same : ∀ j, ((p.set i t).thread j).command? = (p.thread j).command? := by
    intro j
    by_cases hj : j = i
    · subst hj
      rw [Pool.set_thread_self, ht, hi]
    · rw [Pool.set_thread_of_ne _ _ _ hj]
  exact ⟨fun j d hd => h.recorded j d (by rwa [same] at hd),
    fun j k d e hjk hd he => h.apart j k d e hjk (by rwa [same] at hd) (by rwa [same] at he)⟩

theorem Separated.step {P : Protocol S C W R E} {p q : Pool S C W R E} {l : Label C}
    (h : P.Separated p) (hpq : P.step p l = some q) : P.Separated q := by
  cases P.steps_of_step hpq with
  | start i c idle fresh =>
    have other : ∀ j d, j ≠ i → ((p.set i (.reading c)).thread j).command? = some d →
        (p.thread j).command? = some d := fun j d hj hd => by
      rwa [Pool.set_thread_of_ne _ _ _ hj] at hd
    have own : ∀ d, ((p.set i (.reading c)).thread i).command? = some d → c = d := fun d hd => by
      simpa [Thread.command?] using hd
    constructor
    · intro j d hd
      by_cases hj : j = i
      · subst hj
        exact List.mem_cons.mpr (.inl (own d hd).symm)
      · exact List.mem_cons_of_mem _ (h.recorded j d (other j d hj hd))
    · intro j k d e hjk hd he
      by_cases hj : j = i
      · subst hj
        rw [← own d hd]
        exact (fresh e (h.recorded k e (other k e (Ne.symm hjk) he))).1
      · by_cases hk : k = i
        · subst hk
          rw [← own e he]
          exact (fresh d (h.recorded j d (other j d hj hd))).2
        · exact h.apart j k d e hjk (other j d hj hd) (other k e hk he)
  | read i c thread =>
    exact h.set (c := c) (by rw [thread]; rfl) (Thread.command?_afterRead ..) p.store
  | write i c w rest r s thread done =>
    exact h.set (c := c) (by rw [thread]; rfl) (Thread.command?_afterWrite ..) s
  | fail i c w rest r e thread refused =>
    exact h.set (c := c) (by rw [thread]; rfl) rfl p.store

/-- A condition on the steps of a pool: `K` for each command started, `G` for each write tried. -/
def Guard (K : C → Prop) (G : S → C → W → Prop) (p : Pool S C W R E) (l : Label C)
    (_ : Pool S C W R E) : Prop :=
  match l with
  | .start _ c => K c
  | .advance i =>
    match p.thread i with
    | .writing c w _ _ => G p.store c w
    | _ => True

instance {K : C → Prop} {G : S → C → W → Prop} [DecidablePred K] [∀ s c w, Decidable (G s c w)]
    (p : Pool S C W R E) (l : Label C) (q : Pool S C W R E) : Decidable (Guard K G p l q) := by
  unfold Guard
  split
  · infer_instance
  · split <;> infer_instance

/-- A proof outline: an invariant `I` of the store and the commands started so far, and an assertion
`T` for each thread, kept by the thread's own steps and by the writes of the others, under the
condition `Guard K G`. -/
structure Outline (I : S → List C → Prop) (T : S → Thread C W R E → Prop) (K : C → Prop)
    (G : S → C → W → Prop) : Prop where
  idle : ∀ s, T s .idle
  start : ∀ s cs c, I s cs → K c → (∀ d ∈ cs, P.apart c d = true) →
    I s (c :: cs) ∧ T s (.reading c)
  read : ∀ s cs c, I s cs → c ∈ cs → T s (.reading c) → T s (.afterRead c (P.decide s c))
  write : ∀ s cs c w rest r s', I s cs → c ∈ cs → T s (.writing c w rest r) → G s c w →
    P.perform s w = .ok s' → I s' cs ∧ T s' (.afterWrite c rest r)
  fail : ∀ s cs c w rest r e, I s cs → T s (.writing c w rest r) → P.perform s w = .error e →
    T s (.raised c e)
  stable : ∀ s cs c w rest r s' t, I s cs → T s (.writing c w rest r) → G s c w →
    P.perform s w = .ok s' → T s t → (∀ d, t.command? = some d → P.apart c d = true) → T s' t

/-- The state of a pool that an outline describes. -/
structure Holds (I : S → List C → Prop) (T : S → Thread C W R E → Prop) (p : Pool S C W R E) :
    Prop where
  separated : P.Separated p
  store : I p.store p.started
  threads : ∀ i, T p.store (p.thread i)

section Rule

variable {P} {I : S → List C → Prop} {T : S → Thread C W R E → Prop} {K : C → Prop}
  {G : S → C → W → Prop} {p q : Pool S C W R E} {l : Label C} {ls : List (Label C)}

theorem Outline.holds_initial (o : P.Outline I T K G) {s : S} (hs : I s []) :
    P.Holds I T (.initial s) :=
  ⟨P.separated_initial s, hs, fun _ => o.idle s⟩

theorem Outline.holds_step (o : P.Outline I T K G) (h : P.Holds I T p)
    (hpq : P.step p l = some q) (hg : Guard K G p l q) : P.Holds I T q := by
  have hsteps := P.steps_of_step hpq
  suffices hq : I q.store q.started ∧ ∀ i, T q.store (q.thread i) from
    ⟨h.separated.step hpq, hq.1, hq.2⟩
  -- the thread that moved satisfies its next assertion, the others keep theirs
  have others : ∀ (i : ℕ) (t : Thread C W R E), T p.store t →
      ∀ j, T p.store ((p.set i t).thread j) := by
    intro i t ht j
    by_cases hj : j = i
    · subst hj; rwa [Pool.set_thread_self]
    · rw [Pool.set_thread_of_ne _ _ _ hj]; exact h.threads j
  cases hsteps with
  | start i c idle fresh =>
    obtain ⟨hI, hT⟩ := o.start _ _ c h.store hg fun d hd => (fresh d hd).1
    exact ⟨hI, others i _ hT⟩
  | read i c thread =>
    have hT := h.threads i
    rw [thread] at hT
    have hc := h.separated.recorded i c (by rw [thread]; rfl)
    exact ⟨h.store, others i _ (o.read _ _ c h.store hc hT)⟩
  | write i c w rest r s thread done =>
    have hT := h.threads i
    rw [thread] at hT
    have hc := h.separated.recorded i c (by rw [thread]; rfl)
    simp only [Guard, thread] at hg
    obtain ⟨hI, hown⟩ := o.write _ _ c w rest r s h.store hc hT hg done
    refine ⟨hI, fun j => ?_⟩
    by_cases hj : j = i
    · subst hj
      show T s ((p.set j _).thread j)
      rwa [Pool.set_thread_self]
    · show T s ((p.set i _).thread j)
      rw [Pool.set_thread_of_ne _ _ _ hj]
      refine o.stable _ _ c w rest r s _ h.store hT hg done (h.threads j) fun d hd => ?_
      exact h.separated.apart i j c d (Ne.symm hj) (by rw [thread]; rfl) hd
  | fail i c w rest r e thread refused =>
    have hT := h.threads i
    rw [thread] at hT
    exact ⟨h.store, others i _ (o.fail _ _ c w rest r e h.store hT refused)⟩

/-- The invariant and the thread assertions hold after every run whose steps meet the condition. -/
theorem Outline.holds_run (o : P.Outline I T K G) {s : S} (hs : I s [])
    (hg : EveryStep P.step (Guard K G) (.initial s) ls)
    (hrun : run P.step (.initial s) ls = some p) : P.Holds I T p :=
  invariant_of_everyStep (fun _ _ _ hp hpq hguard => o.holds_step hp hpq hguard)
    (o.holds_initial hs) hg hrun

/-- The empty condition holds of every step. -/
theorem guard_true : Guard (fun _ => True) (fun _ _ _ => True) p l q := by
  cases l with
  | start => trivial
  | advance i =>
    simp only [Guard]
    split <;> trivial

theorem everyStep_guard_true :
    EveryStep P.step (Guard (fun _ => True) fun _ _ _ => True) p ls :=
  everyStep_iff_prefixes.mpr fun _ _ _ _ _ _ _ => guard_true

end Rule

/-- The writes of one command, one after the other, up to the first that is refused. -/
def performAll (s : S) : List W → S × Option E
  | [] => (s, none)
  | w :: ws =>
    match P.perform s w with
    | .ok s' => performAll s' ws
    | .error e => (s, some e)

/-- A command that runs with no other command between its read and its writes. -/
def execute (s : S) (c : C) : S × Except E R :=
  match P.decide s c with
  | .error e => (s, .error e)
  | .ok (.reply r) => (s, .ok r)
  | .ok (.write w rest r) =>
    match P.performAll s (w :: rest) with
    | (s', none) => (s', .ok r)
    | (s', some e) => (s', .error e)

/-- A command that runs while other commands commit writes before its first write, and before the
rest of its writes. -/
def executeAmong (s : S) (c : C) (before between : List W) : S × Except E R :=
  match P.decide s c with
  | .error e => (commitAll P.perform (commitAll P.perform s before) between, .error e)
  | .ok (.reply r) => (commitAll P.perform (commitAll P.perform s before) between, .ok r)
  | .ok (.write w rest r) =>
    match P.perform (commitAll P.perform s before) w with
    | .error e => (commitAll P.perform (commitAll P.perform s before) between, .error e)
    | .ok s' =>
      match P.performAll (commitAll P.perform s' between) rest with
      | (t, none) => (t, .ok r)
      | (t, some e) => (t, .error e)

/-- The step of a sequential run: the store after a command that was accepted. -/
def accept (s : S) (c : C) : Option S :=
  match P.execute s c with
  | (s', .ok _) => some s'
  | (_, .error _) => none

section Sequential

variable {P} {s s' : S} {c : C} {w : W} {ws : List W} {r : R}

@[simp] theorem performAll_nil : P.performAll s [] = (s', none) ↔ s = s' := by
  simp [performAll]

theorem performAll_cons : P.performAll s (w :: ws) = (s', none) ↔
    ∃ t, P.perform s w = .ok t ∧ P.performAll t ws = (s', none) := by
  rw [performAll]
  split <;> simp [*]

/-- An accepted command replied without writing, or all its writes went through. -/
theorem execute_ok_cases (h : P.execute s c = (s', .ok r)) :
    (P.decide s c = .ok (.reply r) ∧ s' = s) ∨
      ∃ w rest, P.decide s c = .ok (.write w rest r) ∧ P.performAll s (w :: rest) = (s', none) := by
  simp only [execute] at h
  split at h
  · cases h
  · next hd => cases h; exact .inl ⟨hd, rfl⟩
  · next w rest r' hd =>
    split at h
    · next hp => cases h; exact .inr ⟨w, rest, hd, hp⟩
    · cases h

theorem accept_eq_some : P.accept s c = some s' ↔ ∃ r, P.execute s c = (s', .ok r) := by
  simp only [accept]
  rcases P.execute s c with ⟨t, e | r⟩ <;> simp

/-- What every single write keeps, a command keeps, whether it is accepted or fails half-way. -/
theorem performAll_invariant {I : S → Prop}
    (keep : ∀ s w s', I s → P.perform s w = .ok s' → I s') (hs : I s) :
    I (P.performAll s ws).1 := by
  induction ws generalizing s with
  | nil => exact hs
  | cons w ws ih =>
    rw [performAll]
    split
    · next t ht => exact ih (keep s w t hs ht)
    · exact hs

theorem execute_invariant {I : S → Prop}
    (keep : ∀ s w s', I s → P.perform s w = .ok s' → I s') (hs : I s) : I (P.execute s c).1 := by
  simp only [execute]
  split
  · exact hs
  · exact hs
  · next w rest r hd =>
    have hall : I (P.performAll s (w :: rest)).1 := performAll_invariant keep hs
    split <;> next t ht =>
      rw [ht] at hall
      exact hall

theorem execute_error {e : E} (hd : P.decide s c = .error e) : P.execute s c = (s, .error e) := by
  simp only [execute, hd]

theorem execute_reply (hd : P.decide s c = .ok (.reply r)) : P.execute s c = (s, .ok r) := by
  simp only [execute, hd]

theorem execute_write (hd : P.decide s c = .ok (.write w [] r)) (hw : P.perform s w = .ok s') :
    P.execute s c = (s', .ok r) := by
  simp only [execute, hd, performAll, hw]

end Sequential

end Protocol

end LotusAdvise.Interleaving

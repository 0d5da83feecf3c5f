import Mathlib.Data.List.Basic
import Mathlib.Logic.Function.Basic

/-! # Programs that call shared services

A program makes calls, one after the other. What it does next depends on the answers so far, and in
the end it has a result or an error. Any number of programs run at once, a call at a time, over one
state. A program ensures a condition on its result if every answer that the rules allow leads to
such a result, and then it does so in every order in which the programs take their turns.
-/

namespace LotusAdvise

/-- A program with calls, each with its type of answers. -/
inductive Calls {C : Type} (Answer : C → Type) (E A : Type) where
  | done (result : Except E A)
  | call (request : C) (next : Answer request → Calls Answer E A)

namespace Calls

variable {C : Type} {Answer : C → Type} {E A B S : Type}

/-! ## Sequences -/

/-- One program after the other. An error ends both. -/
def bind (program : Calls Answer E A) (next : A → Calls Answer E B) : Calls Answer E B :=
  match program with
  | done (.error error) => done (.error error)
  | done (.ok a) => next a
  | call request rest => call request fun answer => (rest answer).bind next

instance : Monad (Calls Answer E) where
  pure a := done (.ok a)
  bind := bind

def ofExcept (result : Except E A) : Calls Answer E A := done result

/-- The program for one item after the other. -/
def foldM (step : B → A → Calls Answer E B) : B → List A → Calls Answer E B
  | b, [] => pure b
  | b, a :: as => step b a >>= fun b => foldM step b as

/-- Go on with a value instead of an error. -/
def orElse (program : Calls Answer E A) (otherwise : E → A) : Calls Answer E A :=
  match program with
  | done (.error error) => done (.ok (otherwise error))
  | done (.ok a) => done (.ok a)
  | call request rest => call request fun answer => (rest answer).orElse otherwise

/-! ## Answers that are fixed -/

/-- The result when every call is answered by a function. -/
def eval (answers : (request : C) → Answer request) : Calls Answer E A → Except E A
  | done result => result
  | call request next => (next (answers request)).eval answers

section Eval

variable {answers : (request : C) → Answer request}

@[simp] theorem eval_pure (a : A) : eval answers (pure a : Calls Answer E A) = .ok a := rfl

@[simp] theorem eval_ofExcept (result : Except E A) :
    eval answers (ofExcept result) = result := rfl

@[simp] theorem eval_call (request : C) (next : Answer request → Calls Answer E A) :
    eval answers (call request next) = eval answers (next (answers request)) := rfl

@[simp] theorem eval_bind (program : Calls Answer E A) (next : A → Calls Answer E B) :
    eval answers (program >>= next) = eval answers program >>= fun a => eval answers (next a) := by
  change eval answers (program.bind next) = _
  induction program with
  | done result => cases result <;> rfl
  | call request rest ih => exact ih (answers request)

theorem eval_foldM (step : B → A → Calls Answer E B) (b : B) (as : List A) :
    eval answers (foldM step b as) = as.foldlM (fun b a => eval answers (step b a)) b := by
  induction as generalizing b with
  | nil => rfl
  | cons a as ih =>
    rw [foldM, eval_bind, List.foldlM_cons]
    exact congrArg _ (funext fun b => ih b)

theorem eval_orElse (program : Calls Answer E A) (otherwise : E → A) :
    eval answers (program.orElse otherwise) =
      .ok (match eval answers program with
        | .ok a => a
        | .error error => otherwise error) := by
  induction program with
  | done result => cases result <;> rfl
  | call request rest ih => exact ih (answers request)

end Eval

/-! ## Answers that are allowed -/

/-- The calls that may be made, and the answers that may be given. -/
structure Rules (Answer : C → Type) where
  Valid : C → Prop
  Allowed : (request : C) → Answer request → Prop

/-- The program makes valid calls, and every result that it can come to satisfies the condition. -/
def Ensures (rules : Rules Answer) (post : Except E A → Prop) : Calls Answer E A → Prop
  | done result => post result
  | call request next =>
    rules.Valid request ∧ ∀ answer, rules.Allowed request answer → Ensures rules post (next answer)

/-- What is left to ensure when the first of two programs has ended. -/
def Onward (rules : Rules Answer) (post : Except E B → Prop) (next : A → Calls Answer E B) :
    Except E A → Prop
  | .ok a => Ensures rules post (next a)
  | .error error => post (.error error)

section Ensures

variable {rules : Rules Answer} {post : Except E A → Prop}

theorem Ensures.mono {post' : Except E A → Prop} {program : Calls Answer E A}
    (h : Ensures rules post program) (hpost : ∀ result, post result → post' result) :
    Ensures rules post' program := by
  induction program with
  | done result => exact hpost result h
  | call request next ih => exact ⟨h.1, fun answer hanswer => ih answer (h.2 answer hanswer)⟩

theorem ensures_call {request : C} {next : Answer request → Calls Answer E A}
    (hvalid : rules.Valid request)
    (hnext : ∀ answer, rules.Allowed request answer → Ensures rules post (next answer)) :
    Ensures rules post (call request next) := ⟨hvalid, hnext⟩

theorem ensures_bind {post : Except E B → Prop} {program : Calls Answer E A}
    {next : A → Calls Answer E B} (h : Ensures rules (Onward rules post next) program) :
    Ensures rules post (program >>= next) := by
  change Ensures rules post (program.bind next)
  induction program with
  | done result =>
    cases result with
    | error error => exact h
    | ok a => exact h
  | call request rest ih => exact ⟨h.1, fun answer hanswer => ih answer (h.2 answer hanswer)⟩

/-- Fixed answers that are allowed lead to such a result too. -/
theorem Ensures.eval {program : Calls Answer E A} (h : Ensures rules post program)
    {answers : (request : C) → Answer request}
    (hanswers : ∀ request, rules.Valid request → rules.Allowed request (answers request)) :
    post (program.eval answers) := by
  induction program with
  | done result => exact h
  | call request next ih => exact ih _ (h.2 _ (hanswers request h.1))

/-- The program has one result, whatever is answered. -/
structure Steady (rules : Rules Answer) (answers : (request : C) → Answer request)
    (program : Calls Answer E A) : Prop where
  ensures : Ensures rules (· = program.eval answers) program

section Steady

variable {answers : (request : C) → Answer request}

theorem steady_ofExcept (result : Except E A) :
    Steady rules answers (ofExcept result : Calls Answer E A) := ⟨rfl⟩

theorem steady_pure (a : A) : Steady rules answers (pure a : Calls Answer E A) := ⟨rfl⟩

theorem Steady.bind {program : Calls Answer E A} {next : A → Calls Answer E B}
    (h : Steady rules answers program)
    (hnext : ∀ a, program.eval answers = .ok a → Steady rules answers (next a)) :
    Steady rules answers (program >>= next) := by
  constructor
  rw [eval_bind]
  refine ensures_bind (h.ensures.mono fun result hresult => ?_)
  subst hresult
  cases heval : program.eval answers with
  | error error => rfl
  | ok a => exact (hnext a heval).ensures

/-- The results of the first program may differ if what follows is the same for all of them. -/
theorem steady_bind_of_same {program : Calls Answer E A} {next : A → Calls Answer E B}
    {P : A → Prop} (h : Ensures rules (fun result => ∃ a, result = .ok a ∧ P a) program)
    (hanswers : ∀ request, rules.Valid request → rules.Allowed request (answers request))
    (hsame : ∀ a a', P a → P a' → next a = next a')
    (hnext : ∀ a, P a → Steady rules answers (next a)) :
    Steady rules answers (program >>= next) := by
  obtain ⟨a', heval, ha'⟩ := h.eval hanswers
  constructor
  rw [eval_bind, heval]
  refine ensures_bind (h.mono ?_)
  rintro result ⟨a, rfl, ha⟩
  have hensures := (hnext a ha).ensures
  rw [hsame a a' ha ha'] at hensures
  change Ensures rules _ (next a)
  rw [hsame a a' ha ha']
  exact hensures

/-- A fold is steady if its steps are, as long as an invariant holds that they keep. -/
theorem Steady.foldM {step : B → A → Calls Answer E B} {I : B → Prop} {as : List A}
    (h : ∀ b, ∀ a ∈ as, I b → Steady rules answers (step b a))
    (keep : ∀ b, ∀ a ∈ as, ∀ b', I b → (step b a).eval answers = .ok b' → I b') {b : B} (hb : I b) :
    Steady rules answers (foldM step b as) := by
  induction as generalizing b with
  | nil => exact steady_pure b
  | cons a as ih =>
    apply Steady.bind (h b a List.mem_cons_self hb)
    intro b' hb'
    exact ih (fun b a ha => h b a (List.mem_cons_of_mem _ ha))
      (fun b a ha => keep b a (List.mem_cons_of_mem _ ha)) (keep b a List.mem_cons_self b' hb hb')

theorem foldM_congr {step step' : B → A → Calls Answer E B} {as : List A}
    (h : ∀ b, ∀ a ∈ as, step b a = step' b a) (b : B) : foldM step b as = foldM step' b as := by
  induction as generalizing b with
  | nil => rfl
  | cons a as ih =>
    rw [foldM, foldM, h b a List.mem_cons_self]
    exact congrArg _ (funext fun b => ih (fun b a ha => h b a (List.mem_cons_of_mem _ ha)) b)

theorem Steady.orElse {program : Calls Answer E A} (h : Steady rules answers program)
    (otherwise : E → A) : Steady rules answers (program.orElse otherwise) := by
  have hensures := h.ensures
  constructor
  rw [eval_orElse]
  clear h
  generalize program.eval answers = result at hensures ⊢
  induction program with
  | done result' =>
    obtain rfl : result' = result := hensures
    cases result' <;> rfl
  | call request next ih =>
    exact ⟨hensures.1, fun answer hanswer => ih answer (hensures.2 answer hanswer)⟩

end Steady

end Ensures

/-! ## Programs that take turns -/

/-- The state stays sound, and answers as the rules allow. -/
def Serves (rules : Rules Answer) (Sound : S → Prop)
    (handle : S → (request : C) → S × Answer request) : Prop :=
  ∀ s request, Sound s → rules.Valid request →
    Sound (handle s request).1 ∧ rules.Allowed request (handle s request).2

/-- The programs that share a state. -/
structure Pool (S : Type) (Answer : C → Type) (E A : Type) where
  state : S
  programs : ℕ → Calls Answer E A

/-- A program takes its turn: it makes its next call. -/
def Pool.turn (handle : S → (request : C) → S × Answer request) (pool : Pool S Answer E A)
    (i : ℕ) : Pool S Answer E A :=
  match pool.programs i with
  | done _ => pool
  | call request next =>
    ⟨(handle pool.state request).1,
      Function.update pool.programs i (next (handle pool.state request).2)⟩

def Pool.turns (handle : S → (request : C) → S × Answer request) (pool : Pool S Answer E A)
    (schedule : List ℕ) : Pool S Answer E A :=
  schedule.foldl (turn handle) pool

section Turns

variable {rules : Rules Answer} {Sound : S → Prop}
  {handle : S → (request : C) → S × Answer request} {post : ℕ → Except E A → Prop}
  {pool : Pool S Answer E A}

/-- A turn of one program leaves what the others ensure as it is. -/
theorem Pool.turn_ensures (h : Serves rules Sound handle) (hsound : Sound pool.state)
    (hensures : ∀ i, Ensures rules (post i) (pool.programs i)) (i : ℕ) :
    Sound (pool.turn handle i).state ∧
      ∀ j, Ensures rules (post j) ((pool.turn handle i).programs j) := by
  unfold turn
  split
  · exact ⟨hsound, hensures⟩
  · next request next hprogram =>
    have hi := hensures i
    rw [hprogram] at hi
    obtain ⟨hstate, hanswer⟩ := h pool.state request hsound hi.1
    refine ⟨hstate, fun j => ?_⟩
    dsimp only
    by_cases hj : j = i
    · subst hj
      rw [Function.update_self]
      exact hi.2 _ hanswer
    · rw [Function.update_of_ne hj]
      exact hensures j

theorem Pool.turns_ensures (h : Serves rules Sound handle) (hsound : Sound pool.state)
    (hensures : ∀ i, Ensures rules (post i) (pool.programs i)) (schedule : List ℕ) :
    Sound (pool.turns handle schedule).state ∧
      ∀ j, Ensures rules (post j) ((pool.turns handle schedule).programs j) := by
  induction schedule generalizing pool with
  | nil => exact ⟨hsound, hensures⟩
  | cons i schedule ih =>
    obtain ⟨hstate, hprograms⟩ := turn_ensures h hsound hensures i
    exact ih hstate hprograms

/-- Enough turns end a program. -/
theorem Pool.exists_turns_done (handle : S → (request : C) → S × Answer request)
    (pool : Pool S Answer E A) (i : ℕ) :
    ∃ n result, (pool.turns handle (List.replicate n i)).programs i = done result := by
  generalize hprogram : pool.programs i = program
  induction program generalizing pool with
  | done result => exact ⟨0, result, hprogram⟩
  | call request next ih =>
    have hturn : (pool.turn handle i).programs i = next (handle pool.state request).2 := by
      unfold turn
      simp only [hprogram, Function.update_self]
    obtain ⟨n, result, hdone⟩ := ih _ _ hturn
    exact ⟨n + 1, result, hdone⟩

end Turns

end Calls

end LotusAdvise

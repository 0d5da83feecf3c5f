import LotusAdvise.Proposals.LeaseExclusion
import LotusAdvise.Proposals.LifecycleExecutor

/-! # Effects of asynchronous operations

An operation is attempted again when its worker crashed after the executor had done its
writes. A repeated creation finds its key bound. A repeated version command has nothing to
find, and adds another version. So attempts of an operation take effect once if none
starts beside another, and none of a version operation after one has added its version.
-/

namespace LotusAdvise.Proposals

open Runs Workers

/-- The write that an operation of the type is submitted for: a proposal, or a version. -/
def ProposalAsyncOperationType.effect : ProposalAsyncOperationType → RepositoryWrite → Bool
  | .createProposal, write => write.idempotency?.isSome
  | .createProposalVersion, write => write.version?.isSome

def AsyncJournalEntry.commits (operationId : String) (Q : RepositoryWrite → Bool) :
    AsyncJournalEntry RepositoryWrite → Bool
  | .called _ => false
  | .committed id write => id = operationId && Q write

/-- The operation of which a worker starts an attempt next. -/
def AsyncStage.starting? {X : Type} : AsyncStage X → Option ProposalAsyncOperationRecord
  | .starting operation _ => some operation
  | _ => none

section Effects

variable {S T : Type} (repository : AsyncOperationRepository S T)
  {pool pool' : Pool (AsyncStore S T RepositoryWrite) (AsyncWorker LifecycleStage)}

/-- How many writes of a kind the executor calls of an operation have committed. -/
def effects (Q : RepositoryWrite → Bool) (store : AsyncStore S T RepositoryWrite)
    (operationId : String) : ℕ :=
  store.journal.countP (AsyncJournalEntry.commits operationId Q)

/-- Each creation operation has created one proposal at most, and each version operation has added
one version at most. -/
def ActsAtMostOnce (store : AsyncStore S T RepositoryWrite) : Prop :=
  ∀ operationId operation, repository.getOperation store.operations operationId = some operation →
    effects operation.operationType.effect store operationId ≤ 1

/-- Operations are executed with their stored payloads. -/
def ThroughService {X I : Type} : Label (AsyncCall X) I → Prop
  | .start _ (.runUntilTerminal _ _) => False
  | _ => True

instance {X I : Type} (label : Label (AsyncCall X) I) : Decidable (ThroughService label) := by
  unfold ThroughService
  split <;> infer_instance

/-- No attempt starts of an operation that the worker is executing. -/
def StartsAlone (pool : Pool (AsyncStore S T RepositoryWrite) (AsyncWorker LifecycleStage)) :
    Label (AsyncCall LifecycleStage) (AsyncInput LifecycleInput) → AsyncWorker LifecycleStage → Prop
  | .start _ _, _ => True
  | .advance i _, other => ∀ worker ∈ pool.worker i, ∀ operation ∈ worker.stage.starting?,
    operation.operationId ∉ other.executingId?

instance (label : Label (AsyncCall LifecycleStage) (AsyncInput LifecycleInput))
    (other : AsyncWorker LifecycleStage) : Decidable (StartsAlone pool label other) := by
  unfold StartsAlone
  split <;> infer_instance

/-- No attempt of a version operation starts after one has added its version. -/
def StartsUnversioned (store : AsyncStore S T RepositoryWrite) (worker : AsyncWorker LifecycleStage)
    (_ : AsyncInput LifecycleInput) : Prop :=
  ∀ operation ∈ worker.stage.starting?, operation.operationType = .createProposalVersion →
    effects operation.operationType.effect store operation.operationId = 0

instance (store : AsyncStore S T RepositoryWrite) (worker : AsyncWorker LifecycleStage)
    (input : AsyncInput LifecycleInput) : Decidable (StartsUnversioned store worker input) := by
  unfold StartsUnversioned
  infer_instance

end Effects

section Invariant

variable {S T : Type} {config : ServiceConfig} {services : AsyncServices}
  {operations : AsyncOperationRepository S T} {proposals : ProposalRepository S}
  {store store' : AsyncStore S T RepositoryWrite} {worker worker' : AsyncWorker LifecycleStage}
  {pool pool' : Pool (AsyncStore S T RepositoryWrite) (AsyncWorker LifecycleStage)}
  {input : AsyncInput LifecycleInput} {rest : List ProposalAsyncOperationRecord}
  {operation attempt : ProposalAsyncOperationRecord} {operationId : String}
  {Q : RepositoryWrite → Bool}

/-- The key under which the executor of a creation operation creates. -/
def createsUnder (operation : ProposalAsyncOperationRecord) : Option String :=
  normalizeOptionalIdempotencyKey (asyncIdempotencyKey operation {})

variable (proposals) in
/-- A creation operation has one key, which is bound after it has created its proposal. -/
structure OperationBounded (store : AsyncStore S T RepositoryWrite)
    (operation : ProposalAsyncOperationRecord) : Prop where
  keyed : operation.operationType = .createProposal →
    ∃ key, ∀ fallback, asyncIdempotencyKey operation fallback = some key
  bounded : effects operation.operationType.effect store operation.operationId ≤ 1
  bound : operation.operationType = .createProposal →
    effects operation.operationType.effect store operation.operationId ≠ 0 →
    ∀ key ∈ createsUnder operation, proposals.getIdempotency store.proposals key ≠ none

variable (operations proposals) in
structure EffectsBounded (store : AsyncStore S T RepositoryWrite) : Prop where
  unstored : ∀ operationId Q, operations.getOperation store.operations operationId = none →
    effects Q store operationId = 0
  stored : ∀ operationId operation,
    operations.getOperation store.operations operationId = some operation →
    OperationBounded proposals store operation

/-- A creation command has the key of its operation. -/
def CommandKeyed (operation : ProposalAsyncOperationRecord) (command : ProposalCommand) : Prop :=
  operation.operationType = .createProposal → ∀ arguments, command = .create arguments →
    normalizeOptionalIdempotencyKey arguments.idempotencyKey = createsUnder operation

/-- What the executor call of an attempt has still to do: no second effect. -/
def WithinEffect (store : AsyncStore S T RepositoryWrite)
    (attempt : ProposalAsyncOperationRecord) : LifecycleStage → Prop
  | .reading command => CommandKeyed attempt command ∧
    (attempt.operationType = .createProposalVersion →
      effects attempt.operationType.effect store attempt.operationId = 0)
  | .writing write rest _ =>
    effects attempt.operationType.effect store attempt.operationId +
        (write :: rest).countP attempt.operationType.effect ≤ 1 ∧
      (attempt.operationType = .createProposal → ∀ planned ∈ write :: rest,
        ∀ idempotency ∈ planned.idempotency?,
          createsUnder attempt = some idempotency.idempotencyKey)

/-- The operation a worker is about to execute or has executed, and the call it was resolved to. -/
def AsyncStage.call? {X : Type} : AsyncStage X → Option (String × ExecutorCall)
  | .reading operationId call => some (operationId, call)
  | .starting operation call => some (operation.operationId, call)
  | .running operation call _ => some (operation.operationId, call)
  | .settling operation call _ => some (operation.operationId, call)
  | _ => none

variable (operations) in
structure CallKnown (store : AsyncStore S T RepositoryWrite) (stage : AsyncStage LifecycleStage) :
    Prop where
  copy : CopyStored operations store stage
  command : ∀ operationId call, (operationId, call) ∈ stage.call? → ∃ operation,
    operations.getOperation store.operations operationId = some operation ∧
      CommandKeyed operation call.command
  running : ∀ attempt call x, stage = .running attempt call x → WithinEffect store attempt x

/-! ### What a submission fixes -/

theorem asyncIdempotencyKey_of_submission (h : attempt.submission = operation.submission)
    (fallback : AsyncFallback) :
    asyncIdempotencyKey attempt fallback = asyncIdempotencyKey operation fallback := by
  simp only [ProposalAsyncOperationRecord.submission, Prod.mk.injEq] at h
  rw [asyncIdempotencyKey, asyncIdempotencyKey, h.2.2.2.1, h.2.2.2.2.2.2.1]

theorem operationType_of_submission (h : attempt.submission = operation.submission) :
    attempt.operationType = operation.operationType := by
  simp only [ProposalAsyncOperationRecord.submission, Prod.mk.injEq] at h
  exact h.2.1

theorem createsUnder_of_submission (h : attempt.submission = operation.submission) :
    createsUnder attempt = createsUnder operation := by
  rw [createsUnder, createsUnder, asyncIdempotencyKey_of_submission h]

theorem CommandKeyed.of_submission {command : ProposalCommand} (hkeyed : CommandKeyed operation command)
    (h : attempt.submission = operation.submission) : CommandKeyed attempt command := by
  intro htype arguments hcommand
  rw [createsUnder_of_submission h]
  exact hkeyed ((operationType_of_submission h).symm.trans htype) arguments hcommand

theorem OperationBounded.of_submission (hbounded : OperationBounded proposals store operation)
    (h : attempt.submission = operation.submission) : OperationBounded proposals store attempt := by
  obtain ⟨hkeyed, heffects, hbound⟩ := hbounded
  rw [← operationType_of_submission h] at hkeyed heffects hbound
  rw [← ProposalAsyncOperationRecord.operationId_of_submission h] at heffects hbound
  rw [← createsUnder_of_submission h] at hbound
  refine ⟨fun htype => ?_, heffects, hbound⟩
  obtain ⟨key, hkey⟩ := hkeyed htype
  exact ⟨key, fun fallback => (asyncIdempotencyKey_of_submission h fallback).trans (hkey fallback)⟩

/-- A resolved call creates under the key of its operation. -/
theorem commandKeyed_of_resolve {fallback : AsyncFallback} {kind : ProposalAsyncOperationType}
    {call : ExecutorCall} (hbounded : OperationBounded proposals store operation)
    (h : resolveAsyncCall services operation fallback kind = .ok call) :
    CommandKeyed operation call.command := by
  intro htype arguments hcommand
  obtain ⟨key, hkey⟩ := hbounded.keyed htype
  cases kind with
  | createProposal =>
    obtain ⟨payload, -, h⟩ := bind_eq_ok.mp h
    rw [hkey fallback] at h
    obtain rfl := Except.ok.inj h
    obtain rfl := ProposalCommand.create.inj hcommand
    rw [createsUnder, hkey]
  | createProposalVersion =>
    obtain ⟨payload, -, h⟩ := bind_eq_ok.mp h
    split at h
    · cases h
    · obtain rfl := Except.ok.inj h
      cases hcommand

/-! ### Steps -/

theorem effects_append (journal : List (AsyncJournalEntry RepositoryWrite)) (table : T) (s : S)
    (entries : List (AsyncJournalEntry RepositoryWrite)) :
    effects Q ⟨s, table, journal ++ entries⟩ operationId =
      journal.countP (AsyncJournalEntry.commits operationId Q) +
        entries.countP (AsyncJournalEntry.commits operationId Q) :=
  List.countP_append

@[simp] theorem commits_called (id : String) :
    AsyncJournalEntry.commits operationId Q (.called id) = false := rfl

theorem effects_committed {table : T} {s : S} {write : RepositoryWrite} :
    effects Q ⟨s, table, store.journal ++ [.committed operation.operationId write]⟩ operationId =
      effects Q store operationId + if operation.operationId = operationId ∧ Q write then 1 else 0 := by
  rw [effects_append, List.countP_singleton]
  simp only [AsyncJournalEntry.commits, Bool.and_eq_true, decide_eq_true_eq]
  rfl

/-- The effects change when an executor call commits a write, and only then. -/
theorem effects_of_step {stage : AsyncStage LifecycleStage}
    (h : AsyncStep services operations (lifecycleExecutor config services proposals) store input
      rest stage store' worker') :
    (∀ Q operationId, effects Q store' operationId = effects Q store operationId) ∨
    ∃ operation call write planned response,
      stage = .running operation call (.writing write planned response) ∧
      proposals.perform store.proposals write = .ok store'.proposals ∧
      store'.operations = store.operations ∧
      ∀ Q operationId, effects Q store' operationId = effects Q store operationId +
        if operation.operationId = operationId ∧ Q write then 1 else 0 := by
  cases h with
  | starts attempt table began stores =>
    refine .inl fun Q operationId => ?_
    rw [effects_append, List.countP_singleton, commits_called]
    rfl
  | @executes operation call x proposals' write next step =>
    cases lifecycleStep_of_step step with
    | ends =>
      refine .inl fun Q operationId => ?_
      rw [effects_append]
      rfl
    | plans =>
      refine .inl fun Q operationId => ?_
      rw [effects_append]
      rfl
    | @commits write planned response _ performed =>
      exact .inr ⟨operation, call, write, planned, response, rfl, performed, rfl,
        fun Q operationId => effects_committed⟩
  | _ => exact .inl fun _ _ => rfl

/-- No step removes a binding. -/
theorem bindings_of_step (keys : BindsKeys proposals) {stage : AsyncStage LifecycleStage}
    (h : AsyncStep services operations (lifecycleExecutor config services proposals) store input
      rest stage store' worker') {key : String}
    (hbound : proposals.getIdempotency store.proposals key ≠ none) :
    proposals.getIdempotency store'.proposals key ≠ none := by
  cases h with
  | executes proposals' write next step =>
    cases lifecycleStep_of_step step with
    | ends => exact hbound
    | plans => exact hbound
    | commits performed => exact keys.keeps performed hbound
  | commands proposals' write next step =>
    cases lifecycleStep_of_step step with
    | ends => exact hbound
    | plans => exact hbound
    | commits performed => exact keys.keeps performed hbound
  | _ => exact hbound

theorem OperationBounded.mono (h : OperationBounded proposals store operation)
    (heffects : ∀ Q, effects Q store' operation.operationId = effects Q store operation.operationId)
    (hbindings : ∀ key, proposals.getIdempotency store.proposals key ≠ none →
      proposals.getIdempotency store'.proposals key ≠ none) :
    OperationBounded proposals store' operation where
  keyed := h.keyed
  bounded := (heffects _).trans_le h.bounded
  bound htype hne key hkey := hbindings key (h.bound htype (heffects _ ▸ hne) key hkey)

/-- The operations after a step are those of before, with the effects of before. -/
theorem operationBounded_of_step (laws : operations.Lawful) (h : EffectsBounded operations proposals store)
    {stage : AsyncStage LifecycleStage} (hcopy : CopyStored operations store stage)
    (hstep : AsyncStep services operations (lifecycleExecutor config services proposals) store input
      rest stage store' worker')
    (hfound : operations.getOperation store'.operations operationId = some operation) :
    OperationBounded proposals store operation := by
  rcases stores_of_step hstep with hsame | ⟨record, hstores, horigin⟩
  · exact h.stored operationId operation (hsame ▸ hfound)
  · rw [hstores] at hfound
    split at hfound
    · obtain rfl := Option.some.inj hfound
      rcases horigin with ⟨hsubmitted, hnone⟩ | ⟨copy, hmem, hsubmission⟩
      · refine ⟨hsubmitted.key, ?_, ?_⟩
        · rw [h.unstored _ _ hnone]
          exact Nat.zero_le 1
        · intro _ hne
          exact (hne (h.unstored _ _ hnone)).elim
      · obtain ⟨stored, hstored, hsame⟩ := hcopy copy hmem
        exact (h.stored _ _ hstored).of_submission (hsubmission.trans hsame.symm)
    · exact h.stored operationId operation hfound

/-- What one step makes of the effects: a write is committed by a call that has none before. -/
theorem effectsBounded_step (laws : operations.Lawful) (keys : BindsKeys proposals)
    (h : EffectsBounded operations proposals store) {stage : AsyncStage LifecycleStage}
    (hknown : CallKnown operations store stage)
    (hstep : AsyncStep services operations (lifecycleExecutor config services proposals) store input
      rest stage store' worker') : EffectsBounded operations proposals store' := by
  have hbindings : ∀ key, proposals.getIdempotency store.proposals key ≠ none →
      proposals.getIdempotency store'.proposals key ≠ none :=
    fun key => bindings_of_step keys hstep
  rcases effects_of_step hstep with
    hsame | ⟨executed, call, write, planned, response, hstage, hperform, htable, heffects⟩
  · constructor
    · intro operationId Q hnone
      rw [hsame]
      refine h.unstored operationId Q ?_
      by_contra hne
      obtain ⟨operation, hfound⟩ := Option.ne_none_iff_exists'.mp hne
      obtain ⟨later, hlater, -⟩ := submission_kept laws hknown.copy hstep hfound
      cases hnone.symm.trans hlater
    · intro operationId operation hfound
      exact (operationBounded_of_step laws h hknown.copy hstep hfound).mono
        (fun Q => hsame Q _) hbindings
  · obtain ⟨hwithin, hkey⟩ := hknown.running executed call _ hstage
    obtain ⟨stored, hstored, hsubmission⟩ := hknown.copy executed (by rw [hstage]; rfl)
    constructor
    · intro operationId Q hnone
      rw [htable] at hnone
      rw [heffects, h.unstored operationId Q hnone, if_neg]
      rintro ⟨rfl, -⟩
      cases hnone.symm.trans hstored
    · intro operationId operation hfound
      rw [htable] at hfound
      have hbounded := h.stored operationId operation hfound
      by_cases hid : operation.operationId = executed.operationId
      · have hoperation : operation.operationId = operationId := laws.keyed _ _ _ hfound
        rw [← hoperation, hid, hstored] at hfound
        obtain rfl := Option.some.inj hfound
        have htype := operationType_of_submission hsubmission
        rw [← htype, List.countP_cons] at hwithin
        rw [← htype, ← createsUnder_of_submission hsubmission] at hkey
        refine ⟨hbounded.keyed, ?_, fun hcreate hne key hmem => ?_⟩
        · rw [heffects, hid]
          by_cases heffect : stored.operationType.effect write = true
          · rw [if_pos heffect] at hwithin
            rw [if_pos ⟨rfl, heffect⟩]
            omega
          · rw [if_neg fun hboth => heffect hboth.2]
            exact (Nat.le_add_right _ _).trans hwithin
        · rcases hwrite : write.idempotency? with _ | idempotency
          · -- a write without a key is no creation, so there was one before
            refine hbindings key (hbounded.bound hcreate ?_ key hmem)
            have heffect : stored.operationType.effect write = false := by
              rw [hcreate, ProposalAsyncOperationType.effect, hwrite]
              rfl
            rw [heffects, heffect] at hne
            simpa using hne
          · have hsame := hkey hcreate write List.mem_cons_self idempotency hwrite
            obtain rfl := Option.some.inj (hsame.symm.trans hmem)
            exact keys.binds hperform hwrite
      · refine hbounded.mono (fun Q => ?_) hbindings
        rw [heffects, if_neg fun heq => hid heq.1.symm, Nat.add_zero]

@[simp] theorem call?_recovering {X : Type} (list : List ProposalAsyncOperationRecord) :
    (AsyncWorker.recovering list : AsyncWorker X).stage.call? = none := by
  cases list with
  | nil => rfl
  | cons operation rest =>
    simp only [AsyncWorker.recovering, resolveRecoverableAsyncOperationKind]
    cases operation.operationType <;> rfl

/-- A call goes on, or was just resolved. -/
theorem call_of_step (laws : operations.Lawful) {stage : AsyncStage LifecycleStage}
    (h : AsyncStep services operations (lifecycleExecutor config services proposals) store input
      rest stage store' worker') {call : ExecutorCall}
    (hcall : (operationId, call) ∈ worker'.stage.call?) :
    (operationId, call) ∈ stage.call? ∨
      ∃ operation kind fallback,
        operations.getOperation store.operations operationId = some operation ∧
        resolveAsyncCall services operation fallback kind = .ok call := by
  cases h with
  | @resolves kind id fallback operation resolved found resolution =>
    obtain ⟨rfl, rfl⟩ := Prod.mk.inj (Option.some.inj hcall)
    exact .inr ⟨operation, kind, fallback, found, resolution⟩
  | @prepares id resolved operation found open_ left =>
    obtain ⟨rfl, rfl⟩ := Prod.mk.inj (Option.some.inj hcall)
    rw [laws.keyed _ _ _ found]
    exact .inl rfl
  | @starts operation resolved attempt table began stores =>
    obtain ⟨hsubmission, -⟩ := ProposalAsyncOperationRecord.beginAsyncAttempt_eq_some began
    obtain ⟨rfl, rfl⟩ := Prod.mk.inj (Option.some.inj hcall)
    rw [ProposalAsyncOperationRecord.operationId_of_submission hsubmission]
    exact .inl rfl
  | executes proposals' write next step => cases next <;> exact .inl hcall
  | @settles operation resolved outcome table stores =>
    unfold afterSettling at hcall
    split at hcall
    · exact .inl hcall
    · rw [call?_recovering] at hcall
      cases hcall
  | recovers =>
    rw [call?_recovering] at hcall
    cases hcall
  | fails =>
    rw [call?_recovering] at hcall
    cases hcall
  | commands proposals' write next => cases next <;> cases hcall
  | _ => cases hcall

/-- An executor call was just begun, goes on to its first write, or to its next. -/
theorem running_of_step {stage : AsyncStage LifecycleStage}
    (h : AsyncStep services operations (lifecycleExecutor config services proposals) store input
      rest stage store' worker') {call : ExecutorCall} {x : LifecycleStage}
    (hrunning : worker'.stage = .running attempt call x) :
    (∃ operation, stage = .starting operation call ∧ x = .reading call.command ∧
      attempt.submission = operation.submission) ∨
    (∃ command generated write planned response,
      stage = .running attempt call (.reading command) ∧ x = .writing write planned response ∧
      Planned services.toServices proposals store.proposals ⟨command, generated⟩ write planned
        response) ∨
    ∃ write next planned response,
      stage = .running attempt call (.writing write (next :: planned) response) ∧
      x = .writing next planned response ∧
      ∀ Q, effects Q store' attempt.operationId = effects Q store attempt.operationId +
        if Q write then 1 else 0 := by
  have hattempt : attempt ∈ worker'.stage.attempt? := by
    rw [hrunning]
    rfl
  cases h with
  | @starts operation resolved begun table began stores =>
    obtain ⟨rfl, rfl, rfl⟩ := AsyncStage.running.inj hrunning
    obtain ⟨hsubmission, -⟩ := ProposalAsyncOperationRecord.beginAsyncAttempt_eq_some began
    exact .inl ⟨operation, rfl, rfl, hsubmission⟩
  | @executes operation resolved before proposals' write next step =>
    cases lifecycleStep_of_step step with
    | ends => cases hrunning
    | plans planned =>
      obtain ⟨rfl, rfl, rfl⟩ := AsyncStage.running.inj hrunning
      exact .inr (.inl ⟨_, _, _, _, _, rfl, rfl, planned⟩)
    | @commits write planned response _ performed =>
      cases planned with
      | nil => cases hrunning
      | cons next planned =>
        obtain ⟨rfl, rfl, rfl⟩ := AsyncStage.running.inj hrunning
        refine .inr (.inr ⟨write, next, planned, response, rfl, rfl, fun Q => ?_⟩)
        exact effects_committed.trans (by simp only [true_and])
  | @settles operation resolved outcome table stores =>
    unfold afterSettling at hrunning
    split at hrunning
    · cases hrunning
    · next hsettled =>
      unfold afterSettling at hattempt
      rw [if_neg hsettled, attempt?_recovering] at hattempt
      cases hattempt
  | recovers =>
    rw [attempt?_recovering] at hattempt
    cases hattempt
  | fails =>
    rw [attempt?_recovering] at hattempt
    cases hattempt
  | commands proposals' write next => cases next <;> cases hrunning
  | _ => cases hrunning

/-- A command plans one write with an effect at most, and a creation under its own key. -/
theorem planned_effect {command : ProposalCommand} {generated : Generated}
    {write : RepositoryWrite} {planned : List RepositoryWrite} {response : ProposalResponse}
    (h : Planned services.toServices proposals store.proposals ⟨command, generated⟩ write planned
      response) (operationType : ProposalAsyncOperationType) :
    (write :: planned).countP operationType.effect ≤ 1 := by
  cases h with
  | create => cases operationType <;> exact le_rfl
  | version =>
    cases operationType
    · exact Nat.zero_le 1
    · exact le_rfl
  | move => cases operationType <;> exact Nat.zero_le 1

/-- A creation that is planned finds its key unbound, so the operation has not created before. -/
theorem withinEffect_plans {command : ProposalCommand} {generated : Generated}
    {write : RepositoryWrite} {planned : List RepositoryWrite} {response : ProposalResponse}
    (hbounded : OperationBounded proposals store attempt)
    (hwithin : WithinEffect store attempt (.reading command))
    (h : Planned services.toServices proposals store.proposals ⟨command, generated⟩ write planned
      response) : WithinEffect store attempt (.writing write planned response) := by
  obtain ⟨hkeyed, hversion⟩ := hwithin
  have hplanned := planned_effect h attempt.operationType
  cases htype : attempt.operationType with
  | createProposalVersion =>
    refine ⟨?_, fun hcreate => ?_⟩
    · rw [hversion htype, Nat.zero_add]
      exact hplanned
    · cases htype.symm.trans hcreate
  | createProposal =>
    cases h with
    | create command key hash unbound records =>
      have hkey := (hkeyed htype _ command).symm.trans key
      refine ⟨?_, fun _ write hwrite idempotency hidempotency => ?_⟩
      · have hzero : effects attempt.operationType.effect store attempt.operationId = 0 := by
          by_contra hne
          exact hbounded.bound htype hne _ hkey unbound
        rw [hzero, Nat.zero_add]
        exact hplanned
      · obtain rfl := List.mem_singleton.mp hwrite
        obtain rfl := Option.some.inj hidempotency
        exact hkey
    | version =>
      refine ⟨?_, fun _ write hwrite idempotency hidempotency => ?_⟩
      · have hbefore := hbounded.bounded
        rw [htype] at hbefore ⊢
        exact hbefore
      · simp only [List.mem_cons, List.not_mem_nil, or_false] at hwrite
        rcases hwrite with rfl | rfl <;> cases hidempotency
    | move =>
      refine ⟨?_, fun _ write hwrite idempotency hidempotency => ?_⟩
      · have hbefore := hbounded.bounded
        rw [htype] at hbefore ⊢
        exact hbefore
      · obtain rfl := List.mem_singleton.mp hwrite
        cases hidempotency

theorem withinEffect_commits {write next : RepositoryWrite} {planned : List RepositoryWrite}
    {response : ProposalResponse}
    (h : WithinEffect store attempt (.writing write (next :: planned) response))
    (heffects : ∀ Q, effects Q store' attempt.operationId = effects Q store attempt.operationId +
      if Q write then 1 else 0) :
    WithinEffect store' attempt (.writing next planned response) := by
  obtain ⟨hcount, hkeys⟩ := h
  refine ⟨?_, fun hcreate planned hplanned => hkeys hcreate planned (List.mem_cons_of_mem _ hplanned)⟩
  rw [List.countP_cons] at hcount
  rw [heffects]
  omega

theorem WithinEffect.mono {x : LifecycleStage} (h : WithinEffect store attempt x)
    (heffects : ∀ Q, effects Q store' attempt.operationId = effects Q store attempt.operationId) :
    WithinEffect store' attempt x := by
  cases x with
  | reading command => exact ⟨h.1, fun htype => (heffects _).trans (h.2 htype)⟩
  | writing write planned response =>
    refine ⟨?_, h.2⟩
    rw [heffects]
    exact h.1

theorem WithinEffect.start {call : ExecutorCall} (hkeyed : CommandKeyed operation call.command)
    (hsubmission : attempt.submission = operation.submission)
    (hunversioned : operation.operationType = .createProposalVersion →
      effects operation.operationType.effect store operation.operationId = 0) :
    WithinEffect store attempt (.reading call.command) := by
  refine ⟨hkeyed.of_submission hsubmission, fun htype => ?_⟩
  rw [operationType_of_submission hsubmission] at htype ⊢
  rw [ProposalAsyncOperationRecord.operationId_of_submission hsubmission]
  exact hunversioned htype

/-- What a worker knows of its call after its own step. -/
theorem callKnown_step (laws : operations.Lawful) (h : EffectsBounded operations proposals store)
    (hknown : CallKnown operations store worker.stage)
    (hunversioned : StartsUnversioned store worker input)
    (hstep : AsyncStep services operations (lifecycleExecutor config services proposals) store input
      worker.rest worker.stage store' worker') : CallKnown operations store' worker'.stage := by
  refine ⟨copyStored_step laws hknown.copy hstep, fun id call hcall => ?_,
    fun attempt call x hrunning => ?_⟩
  · have hstored : ∃ operation, operations.getOperation store.operations id = some operation ∧
        CommandKeyed operation call.command := by
      rcases call_of_step laws hstep hcall with hbefore | ⟨operation, kind, fallback, hfound, hresolve⟩
      · exact hknown.command id call hbefore
      · exact ⟨operation, hfound, commandKeyed_of_resolve (h.stored _ _ hfound) hresolve⟩
    obtain ⟨operation, hfound, hkeyed⟩ := hstored
    obtain ⟨later, hlater, hsubmission⟩ := submission_kept laws hknown.copy hstep hfound
    exact ⟨later, hlater, hkeyed.of_submission hsubmission⟩
  · rcases running_of_step hstep hrunning with ⟨operation, hstage, rfl, hsubmission⟩ |
      ⟨command, generated, write, planned, response, hstage, rfl, hplanned⟩ |
      ⟨write, next, planned, response, hstage, rfl, heffects⟩
    · obtain ⟨stored, hstored, hkeyed⟩ := hknown.command operation.operationId call
        (by rw [hstage]; rfl)
      obtain ⟨stored', hstored', hcopied⟩ := hknown.copy operation (by rw [hstage]; rfl)
      obtain rfl := Option.some.inj (hstored.symm.trans hstored')
      have hwithin := WithinEffect.start (hkeyed.of_submission hcopied.symm) hsubmission
        (hunversioned operation (by rw [hstage]; rfl))
      rcases effects_of_step hstep with hsame | ⟨_, _, _, _, _, hcommits, -⟩
      · exact hwithin.mono fun Q => hsame Q _
      · cases hstage.symm.trans hcommits
    · obtain ⟨stored, hstored, hcopied⟩ := hknown.copy attempt (by rw [hstage]; rfl)
      have hwithin := withinEffect_plans ((h.stored _ _ hstored).of_submission hcopied.symm)
        (hknown.running attempt call _ hstage) hplanned
      rcases effects_of_step hstep with hsame | ⟨_, _, _, _, _, hcommits, -⟩
      · exact hwithin.mono fun Q => hsame Q _
      · cases hstage.symm.trans hcommits
    · exact withinEffect_commits (hknown.running attempt call _ hstage) heffects

/-- No step of another worker disturbs it, as long as the two execute different operations. -/
theorem callKnown_stable (laws : operations.Lawful) {other : AsyncWorker LifecycleStage}
    (hknown : CallKnown operations store worker.stage)
    (hstep : AsyncStep services operations (lifecycleExecutor config services proposals) store input
      worker.rest worker.stage store' worker')
    (hapart : ∀ id ∈ worker.executingId?, id ∉ other.executingId?)
    (hother : CallKnown operations store other.stage) : CallKnown operations store' other.stage := by
  refine ⟨copyStored_stable laws hknown.copy hstep hother.copy, fun id call hcall => ?_,
    fun attempt call x hrunning => ?_⟩
  · obtain ⟨operation, hfound, hkeyed⟩ := hother.command id call hcall
    obtain ⟨later, hlater, hsubmission⟩ := submission_kept laws hknown.copy hstep hfound
    exact ⟨later, hlater, hkeyed.of_submission hsubmission⟩
  · refine (hother.running attempt call x hrunning).mono fun Q => ?_
    rcases effects_of_step hstep with hsame | ⟨executed, _, _, _, _, hstage, -, -, heffects⟩
    · exact hsame Q _
    · rw [heffects, if_neg, Nat.add_zero]
      rintro ⟨heq, -⟩
      refine hapart executed.operationId ?_ ?_
      · rw [mem_executingId?, hstage]
        exact ⟨executed, rfl, rfl⟩
      · rw [mem_executingId?, hrunning]
        exact ⟨attempt, rfl, heq.symm⟩

/-- What a worker executes after a step, it executed before or had read to attempt. -/
theorem executing_of_step {id : String}
    (h : AsyncStep services operations (lifecycleExecutor config services proposals) store input
      rest worker.stage store' worker') (hid : id ∈ worker'.executingId?) :
    id ∈ worker.executingId? ∨
      ∃ operation call, worker.stage = .starting operation call ∧ operation.operationId = id := by
  obtain ⟨attempt, hattempt, rfl⟩ := mem_executingId?.mp hid
  rcases attempt_of_step h (attempt?_of_executing? hattempt) with
    ⟨-, -, hbefore⟩ | ⟨operation, call, hstage, began, -⟩
  · exact .inl (mem_executingId?.mpr ⟨attempt, hbefore hattempt, rfl⟩)
  · obtain ⟨hsubmission, -⟩ := ProposalAsyncOperationRecord.beginAsyncAttempt_eq_some began
    exact .inr ⟨operation, call, hstage,
      (ProposalAsyncOperationRecord.operationId_of_submission hsubmission).symm⟩

variable (operations proposals) in
/-- The invariant: effects are within bounds, and one executor call of an operation at most is in
progress. -/
structure ActsApart (pool : Pool (AsyncStore S T RepositoryWrite) (AsyncWorker LifecycleStage)) :
    Prop where
  store : EffectsBounded operations proposals pool.store
  worker : ∀ i worker, pool.worker i = some worker → CallKnown operations pool.store worker.stage
  exclusive : pool.Exclusive AsyncWorker.executingId?

theorem actsApart_initial
    (hnone : ∀ operationId, operations.getOperation store.operations operationId = none)
    (hjournal : store.journal = []) :
    ActsApart operations proposals
      (.initial store : Pool (AsyncStore S T RepositoryWrite) (AsyncWorker LifecycleStage)) where
  store := by
    constructor
    · intro operationId Q _
      show store.journal.countP _ = 0
      rw [hjournal, List.countP_nil]
    · intro operationId operation hfound
      cases (hnone operationId).symm.trans hfound
  worker _ _ h := by cases h
  exclusive := Pool.exclusive_initial

theorem actsApart_next (laws : operations.Lawful) (keys : BindsKeys proposals)
    {label : Label (AsyncCall LifecycleStage) (AsyncInput LifecycleInput)}
    (h : ActsApart operations proposals pool)
    (hnext : (asyncWorkers services operations (lifecycleExecutor config services proposals)).next
      pool label = some pool')
    (hservice : ThroughService label) (halone : Program.Everyone StartsAlone pool label pool')
    (hunversioned : Program.Guard StartsUnversioned pool label pool') :
    ActsApart operations proposals pool' := by
  cases (Program.next_iff _).mp hnext with
  | start i call idle =>
    refine ⟨h.store, fun j other hother => ?_, h.exclusive.moved fun id hid => ?_⟩
    · rcases Pool.moved_cases hother with ⟨rfl, rfl⟩ | ⟨-, hother⟩
      · refine ⟨?_, ?_, ?_⟩
        · cases call <;> exact fun _ hcopy => by cases hcopy
        · cases call with
          | runUntilTerminal => exact hservice.elim
          | _ => exact fun _ _ hcall => by cases hcall
        · cases call <;> exact fun _ _ _ hrunning => by cases hrunning
      · exact h.worker j other hother
    · cases call <;> cases hid
  | advance i input worker store' worker' hworker hstep =>
    have hknown := h.worker i worker hworker
    have hstep := asyncStep_of_step laws hstep
    refine ⟨effectsBounded_step laws keys h.store hknown hstep, fun j other hother => ?_,
      h.exclusive.moved fun id hid j other hne hother hexecuting => ?_⟩
    · rcases Pool.moved_cases hother with ⟨rfl, rfl⟩ | ⟨hne, hother⟩
      · exact callKnown_step laws h.store hknown (hunversioned worker hworker) hstep
      · refine callKnown_stable laws hknown hstep (fun id hid hexecuting => ?_)
          (h.worker j other hother)
        exact hne (h.exclusive i j worker other id hworker hother hid hexecuting).symm
    · rcases executing_of_step hstep hid with hbefore | ⟨operation, call, hstage, rfl⟩
      · exact hne (h.exclusive i j worker other id hworker hother hbefore hexecuting)
      · exact halone j other hother worker hworker operation (by rw [hstage]; rfl) hexecuting

/-- Operations act at most once in every run in which no attempt starts of an operation that another
call is executing, and none of a version operation after one has added its version. -/
theorem acts_at_most_once (laws : operations.Lawful) (keys : BindsKeys proposals)
    (hnone : ∀ operationId, operations.getOperation store.operations operationId = none)
    (hjournal : store.journal = [])
    {labels : List (Label (AsyncCall LifecycleStage) (AsyncInput LifecycleInput))}
    (hservice : ∀ label ∈ labels, ThroughService label)
    (halone : EveryStep (asyncWorkers services operations
      (lifecycleExecutor config services proposals)).next (Program.Everyone StartsAlone)
      (.initial store) labels)
    (hunversioned : EveryStep (asyncWorkers services operations
      (lifecycleExecutor config services proposals)).next (Program.Guard StartsUnversioned)
      (.initial store) labels)
    (hrun : run (asyncWorkers services operations
      (lifecycleExecutor config services proposals)).next (.initial store) labels = some pool) :
    ActsAtMostOnce operations pool.store := by
  have hcalls : EveryStep (asyncWorkers services operations
      (lifecycleExecutor config services proposals)).next (fun _ label _ => ThroughService label)
      (.initial store) labels := everyStep_of_labels fun label hlabel _ _ => hservice label hlabel
  have hguard := everyStep_and.mpr ⟨hcalls, everyStep_and.mpr ⟨halone, hunversioned⟩⟩
  have hapart : ActsApart operations proposals pool :=
    invariant_of_everyStep (fun _ _ _ h hnext ⟨hservice, halone, hunversioned⟩ =>
      actsApart_next laws keys h hnext hservice halone hunversioned)
      (actsApart_initial hnone hjournal) hguard hrun
  intro operationId operation hfound
  have hbounded := (hapart.store.stored operationId operation hfound).bounded
  rwa [laws.keyed _ _ _ hfound] at hbounded

end Invariant

namespace Sample

def asyncLifecycle : Program (AsyncStore InMemoryStore AsyncOperationDicts RepositoryWrite)
    (AsyncWorker LifecycleStage) (AsyncCall LifecycleStage) (AsyncInput LifecycleInput) :=
  asyncWorkers asyncServices inMemoryAsyncOperations
    (lifecycleExecutor config asyncServices inMemoryRepository)

def emptyStore : Pool (AsyncStore InMemoryStore AsyncOperationDicts RepositoryWrite)
    (AsyncWorker LifecycleStage) := .initial ⟨.empty, .empty, []⟩

/-- Worker `i` takes `n` steps in the given minute. -/
def proceed (i n minute : ℕ) : List (Label (AsyncCall LifecycleStage) (AsyncInput LifecycleInput)) :=
  List.replicate n (.advance i
    { now := utcClock minute, operationId := "pop_000", correlationId := "corr_000"
      executor := .proceed (drawn i (clock minute)) })

def crash (i : ℕ) : Label (AsyncCall LifecycleStage) (AsyncInput LifecycleInput) :=
  .advance i { crash := true, now := utcClock 0, executor := .raise "" "" }

/-- A version is submitted for a proposal and added by worker 2, which crashes before it settles the
operation; worker 3 recovers the operation after the lease. -/
def versionRecovered : List (Label (AsyncCall LifecycleStage) (AsyncInput LifecycleInput)) :=
  .start 0 (.command (.reading (create "key-1"))) :: proceed 0 2 0 ++
    .start 1 (.acceptCreateVersion "pp_000" ⟨"advisor_1", none, []⟩ none) :: proceed 1 2 1 ++
    .start 2 (.execute .createProposalVersion "pop_000" {}) :: proceed 2 6 1 ++ crash 2 ::
    .start 3 (.recover 50) :: proceed 3 7 3

/-- A creation is submitted and executed by worker 1, which crashes before it settles the operation;
worker 2 recovers the operation after the lease. -/
def creationRecovered : List (Label (AsyncCall LifecycleStage) (AsyncInput LifecycleInput)) :=
  .start 0 (.acceptCreateProposal ⟨"advisor_1", [("created_by", .str "advisor_1")]⟩
      (some "key-1") none) :: proceed 0 1 0 ++
    .start 1 (.execute .createProposal "pop_000" {}) :: proceed 1 5 1 ++ crash 1 ::
    .start 2 (.recover 50) :: proceed 2 6 3

end Sample

open Sample in
/-- A version operation whose worker crashed after the executor returned is executed again, and adds
a second version. -/
theorem acts_at_most_once_recovered :
    ¬ ∀ labels pool, (∀ label ∈ labels, ThroughService label) →
      run asyncLifecycle.next emptyStore labels = some pool →
      ActsAtMostOnce inMemoryAsyncOperations pool.store := by
  intro honce
  have hview : (run asyncLifecycle.next emptyStore versionRecovered).map (fun pool =>
      ((pool.store.operations.getOperation "pop_000").map
          ProposalAsyncOperationRecord.operationType,
        effects ProposalAsyncOperationType.createProposalVersion.effect pool.store "pop_000")) =
      some (some .createProposalVersion, 2) := by decide +kernel
  obtain ⟨pool, hpool, hview⟩ := Option.map_eq_some_iff.mp hview
  obtain ⟨hfound, heffects⟩ := Prod.mk.inj hview
  obtain ⟨operation, hfound, htype⟩ := Option.map_eq_some_iff.mp hfound
  have hbounded := honce versionRecovered pool (by decide +kernel) hpool "pop_000" operation hfound
  rw [htype, heffects] at hbounded
  exact absurd hbounded (by decide)

open Sample in
/-- The theorem at a creation that is executed again after a crash: one proposal is created. -/
theorem acts_at_most_once_createdAgain : ∃ pool,
    run asyncLifecycle.next emptyStore creationRecovered = some pool ∧
      executorCalls pool.store "pop_000" = 2 ∧
      ActsAtMostOnce inMemoryAsyncOperations pool.store := by
  have hcalls : (run asyncLifecycle.next emptyStore creationRecovered).map
      (fun pool => executorCalls pool.store "pop_000") = some 2 := by decide +kernel
  have halone : EveryStep asyncLifecycle.next (Program.EveryoneBelow 3 StartsAlone) emptyStore
      creationRecovered := by decide +kernel
  have hunversioned : EveryStep asyncLifecycle.next (Program.Guard StartsUnversioned) emptyStore
      creationRecovered := by decide +kernel
  obtain ⟨pool, hpool, hcount⟩ := Option.map_eq_some_iff.mp hcalls
  exact ⟨pool, hpool, hcount, acts_at_most_once AsyncOperationDicts.lawful inMemory_bindsKeys
    (fun _ => rfl) rfl (by decide +kernel) (Program.everyone_of_below halone) hunversioned hpool⟩

end LotusAdvise.Proposals

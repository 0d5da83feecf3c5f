import LotusAdvise.Proposals.Ledger

/-! # One request per key

An idempotency key should stand for one request. A command that reuses the key of another
request is rejected when its search comes upon a record of that key; the kinds of command
search different records, and a caller's own metadata may be newer than the record.
-/

namespace LotusAdvise.Proposals

open Interleaving Runs

/-- All accepted commands on a proposal that carried one key carried one request hash. -/
def OneRequestPerKey (services : Services) (ledger : Ledger) : Prop :=
  ∀ a ∈ ledger.accepted, ∀ b ∈ ledger.accepted, a.command.searchKey? ≠ none →
    a.command.searchKey? = b.command.searchKey? →
    a.command.proposalId? = b.command.proposalId? → a.hash services = b.hash services

instance (services : Services) (ledger : Ledger) : Decidable (OneRequestPerKey services ledger) :=
  inferInstanceAs (Decidable (∀ a ∈ ledger.accepted, ∀ b ∈ ledger.accepted, _))

/-- The command carries the key that an accepted command on the same proposal carried with another
request hash. -/
def ReusesKey (services : Services) (ledger : Ledger) (command : ProposalCommand)
    (entry : AcceptedCommand) : Prop :=
  command.searchKey? ≠ none ∧ entry.command.searchKey? = command.searchKey? ∧
    entry.command.proposalId? = command.proposalId? ∧
    requestHash services inMemoryRepository ledger.store command ≠ none ∧
    entry.hash services ≠ requestHash services inMemoryRepository ledger.store command

instance (services : Services) (ledger : Ledger) (command : ProposalCommand)
    (entry : AcceptedCommand) : Decidable (ReusesKey services ledger command entry) :=
  inferInstanceAs (Decidable (_ ∧ _))

/-- A command that reuses a key is rejected with a conflict and changes nothing. -/
def ReuseRejected (config : ServiceConfig) (services : Services) (ledger : Ledger) (call : Call)
    (_ : Ledger) : Prop :=
  ∀ entry ∈ ledger.accepted, ReusesKey services ledger call.command entry →
    (inMemoryLifecycle config services).execute ledger.store call = (ledger.store,
      .error (.idempotencyConflict "IDEMPOTENCY_KEY_CONFLICT: request hash mismatch"))

/-- A command that reuses a key finds, as the newest record of the key among those its kind
searches, one that was recorded under the key. -/
def ReuseFindsRecord (services : Services) (ledger : Ledger) (call : Call) (_ : Ledger) : Prop :=
  ∀ entry ∈ ledger.accepted, ReusesKey services ledger call.command entry →
    AnswersHandoff inMemoryRepository ledger.store call.command ∧
    ∃ metadata ∈ call.command.searchKey?.bind
        (newestSearched inMemoryRepository ledger.store call.command),
      ledger.RecordedUnderKeyOf call.command metadata

instance (services : Services) (ledger : Ledger) (call : Call) (after : Ledger) :
    Decidable (ReuseFindsRecord services ledger call after) :=
  inferInstanceAs (Decidable (∀ entry ∈ ledger.accepted, _))

section Steps

variable {config : ServiceConfig} {services : Services} {ledger after : Ledger} {call : Call}

theorem ReuseFindsRecord.rejected (hsound : ledger.Sound services)
    (hone : OneRequestPerKey services ledger)
    (hfinds : ReuseFindsRecord services ledger call after) :
    ReuseRejected config services ledger call after := by
  intro entry hentry hreuse
  obtain ⟨hhandoff, metadata, hnewest, earlier, hearlier, hid', hkey', hmem⟩ :=
    hfinds entry hentry hreuse
  obtain ⟨hkeyed, hkey, hid, hrequest, hother⟩ := hreuse
  obtain ⟨key, hk⟩ := Option.ne_none_iff_exists'.mp hkeyed
  obtain ⟨hash, hh⟩ := Option.ne_none_iff_exists'.mp hrequest
  rw [Option.mem_def, hk, Option.bind_some] at hnewest
  -- the record found was written with the one hash of the key
  obtain ⟨hash', hhash', hwritten⟩ := hsound.written earlier hearlier key (hkey'.trans hk)
  have hsame : earlier.hash services = entry.hash services :=
    hone earlier hearlier entry hentry (by rw [hkey']; exact hkeyed) (hkey'.trans hkey.symm)
      (hid'.trans hid.symm)
  have hne : hash ≠ hash' := by
    rintro rfl
    rw [← hsame, hhash', hh] at hother
    exact hother rfl
  have hdisagrees : ¬ HashAgrees metadata hash :=
    fun h => hne (((hwritten metadata hmem).hashAgrees_iff).mp h)
  obtain ⟨proposalId, hpid⟩ : ∃ proposalId, call.command.proposalId? = some proposalId := by
    cases hc : call.command <;> rw [hc] at hk <;> first
      | exact ⟨_, rfl⟩
      | cases hk
  obtain ⟨proposal, hp⟩ := Option.isSome_iff_exists.mp
    (hsound.stored entry hentry key proposalId (hkey.trans hk) (hid.trans hpid))
  exact Protocol.execute_error
    (decide_conflict hpid hk hp hhandoff hh hnewest hdisagrees)

theorem OneRequestPerKey.attempt (hone : OneRequestPerKey services ledger)
    (hrejected : ReuseRejected config services ledger call after) :
    OneRequestPerKey services (ledger.attempt config services call) := by
  rcases Ledger.attempt_cases config services ledger call with ⟨store, error, hexec, heq⟩ |
    ⟨store, response, hexec, heq⟩
  · rw [heq]
    exact hone
  · rw [heq]
    -- a new entry with an old key but another hash would have been rejected
    have hnew : ∀ a ∈ ledger.accepted, a.command.searchKey? ≠ none →
        a.command.searchKey? = call.command.searchKey? →
        a.command.proposalId? = call.command.proposalId? →
        a.hash services = (ledger.entry config services call).hash services := by
      intro a ha hkeyed hkey hid
      by_contra hother
      rw [hkey] at hkeyed
      obtain ⟨key, hk⟩ := Option.ne_none_iff_exists'.mp hkeyed
      obtain ⟨_, hash, hhash, _⟩ := Ledger.written_of_accepted hexec hk
      have hrequest : requestHash services inMemoryRepository ledger.store call.command ≠ none :=
        Option.ne_none_iff_exists'.mpr ⟨hash, hhash⟩
      have := hrejected a ha ⟨hkeyed, hkey, hid, hrequest, hother⟩
      rw [hexec] at this
      cases this
    intro a ha b hb hkeyed hkey hid
    rcases List.mem_append.mp ha with ha | ha <;> rcases List.mem_append.mp hb with hb | hb
    · exact hone a ha b hb hkeyed hkey hid
    · obtain rfl := List.mem_singleton.mp hb
      exact hnew a ha hkeyed hkey hid
    · obtain rfl := List.mem_singleton.mp ha
      exact (hnew b hb (hkey ▸ hkeyed) hkey.symm hid.symm).symm
    · rw [List.mem_singleton.mp ha, List.mem_singleton.mp hb]

end Steps

/-- In a sequential run in which every reuse of a key finds a record of the key, all reuses are
rejected, and every key stands for one request. -/
theorem key_reuse_rejected (config : ServiceConfig) (services : Services) (calls : List Call)
    (hfinds : EveryStep (Ledger.step config services) (ReuseFindsRecord services) .empty calls) :
    EveryStep (Ledger.step config services) (ReuseRejected config services) .empty calls ∧
      EveryState (Ledger.step config services) (OneRequestPerKey services) .empty calls := by
  have hempty : OneRequestPerKey services .empty := fun _ h => (by cases h)
  rw [EveryState, and_iff_right hempty, ← everyStep_and]
  refine EveryStep.of_invariant
    (I := fun ledger => ledger.Sound services ∧ OneRequestPerKey services ledger) ?_
    ⟨Ledger.sound_empty, hempty⟩ hfinds
  rintro ledger call after ⟨hsound, hone⟩ hstep hq
  have hrejected : ReuseRejected config services ledger call after := hq.rejected hsound hone
  cases hstep
  have hone' := hone.attempt hrejected
  exact ⟨⟨hsound.attempt, hone'⟩, hrejected, hone'⟩

/-- A transition reuses the key of an earlier one for another request. -/
def reuseByTransition : List Call :=
  [Sample.call 0 0 (Sample.create "key-1"),
    Sample.call 1 1 (Sample.transition "pp_000" .submittedForRiskReview [] (some "key-2")),
    Sample.call 2 2 (Sample.transition "pp_000" .riskApproved [] (some "key-2"))]

/-- An approval reuses the key of a transition, which it does not see. -/
def reuseByApproval : List Call :=
  [Sample.call 0 0 (Sample.create "key-1"),
    Sample.call 1 1 (Sample.transition "pp_000" .submittedForRiskReview [] (some "key-2")),
    Sample.call 2 2 (Sample.approve "pp_000" .risk (some "key-2"))]

theorem key_reuse_rejected_transition :
    EveryStep (Ledger.step Sample.config Sample.services)
        (ReuseRejected Sample.config Sample.services) .empty reuseByTransition ∧
      EveryState (Ledger.step Sample.config Sample.services) (OneRequestPerKey Sample.services)
        .empty reuseByTransition :=
  key_reuse_rejected Sample.config Sample.services reuseByTransition (by decide +kernel)

theorem key_reuse_rejected_approval :
    ¬ EveryState (Ledger.step Sample.config Sample.services) (OneRequestPerKey Sample.services)
      .empty reuseByApproval := by
  decide +kernel

end LotusAdvise.Proposals

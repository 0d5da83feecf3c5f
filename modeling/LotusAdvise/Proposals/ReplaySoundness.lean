import LotusAdvise.Proposals.Ledger

/-! # Sound replays

A command that is answered as a replay should repeat one that was accepted before. The
search takes any event whose metadata carry the key, and a missing hash for the right one;
replays are sound as long as what they find was recorded under the key.
-/

namespace LotusAdvise.Proposals

open Interleaving Runs

/-- The payloads of the accepted requests. -/
def Ledger.payloads (ledger : Ledger) : List JsonObject := ledger.accepted.filterMap (·.request)

/-- The kinds of command that are replayed from the events of their proposal. -/
def replayedFromEvents : List ProposalCommand.Kind :=
  [.transition, .executionHandoff, .executionUpdate]

/-- The command is answered without a write. -/
def Plan.isReply : Plan → Bool
  | .ok (.reply _) => true
  | _ => false

theorem Plan.isReply_iff {plan : Plan} :
    Plan.isReply plan = true ↔ ∃ response, plan = .ok (.reply response) := by
  rcases plan with e | r | ⟨w, rest, r⟩ <;> simp [Plan.isReply]

/-- A command that is answered as a replay repeats an accepted command that was recorded: one of its
kind on its proposal, with its key and its request hash. -/
def ReplayRepeats (config : ServiceConfig) (services : Services) (ledger : Ledger) (call : Call)
    (_ : Ledger) : Prop :=
  call.command.kind ∈ replayedFromEvents →
    Plan.isReply ((inMemoryLifecycle config services).decide ledger.store call) = true →
    ∃ entry ∈ ledger.accepted, entry.command.kind = call.command.kind ∧
      entry.command.proposalId? = call.command.proposalId? ∧
      call.command.searchKey? ≠ none ∧ entry.command.searchKey? = call.command.searchKey? ∧
      entry.hash services = requestHash services inMemoryRepository ledger.store call.command ∧
      entry.metadata ≠ []

/-- The newest event with the key of the command, if its hash would be taken for the command's, was
recorded by a command that carried the key as its own. -/
def ReplayFindsRecord (services : Services) (ledger : Ledger) (call : Call) (_ : Ledger) : Prop :=
  call.command.kind ∈ replayedFromEvents →
    ∀ metadata ∈ call.command.searchKey?.bind
        (newestSearched inMemoryRepository ledger.store call.command),
      ∀ hash ∈ requestHash services inMemoryRepository ledger.store call.command,
        HashAgrees metadata hash → ledger.RecordedUnderKeyOf call.command metadata

instance (services : Services) (payloads : List JsonObject) :
    Decidable (services.CollisionFree payloads) :=
  inferInstanceAs (Decidable (∀ a ∈ payloads, ∀ b ∈ payloads, _))

instance (services : Services) (ledger : Ledger) (call : Call) (after : Ledger) :
    Decidable (ReplayFindsRecord services ledger call after) :=
  inferInstanceAs (Decidable (_ → ∀ metadata ∈ _, ∀ hash ∈ _, _))

instance (config : ServiceConfig) (services : Services) (ledger : Ledger) (call : Call)
    (after : Ledger) : Decidable (ReplayRepeats config services ledger call after) :=
  inferInstanceAs (Decidable (_ → _ → ∃ entry ∈ ledger.accepted, _))

section Kinds

variable {S : Type} {services : Services} {repository : ProposalRepository S} {store : S}
  {command : ProposalCommand} {dump : JsonObject}

namespace ProposalCommand.Kind

/-- The keys of the payload that the request hash of a kind is taken of. -/
def payloadKeys : ProposalCommand.Kind → List String
  | .transition => ["event_type", "actor_id", "related_version_no", "reason", "expected_state"]
  | .approval => ["approval_type", "approved", "actor_id", "related_version_no", "details",
      "expected_state"]
  | .executionHandoff => ["actor_id", "execution_provider", "related_version_no", "expected_state",
      "correlation_id", "external_request_id", "notes"]
  | .executionUpdate => ["update_id", "actor_id", "execution_request_id", "execution_provider",
      "update_status", "related_version_no", "external_execution_id", "occurred_at", "details"]
  | .narrativeReview => ["proposal_id", "proposal_version_no", "narrative_id", "payload"]
  | .create | .createVersion | .reportRequest => []

/-- A key that only the payloads of one kind have. -/
def mark : ProposalCommand.Kind → String
  | .transition => "event_type"
  | .executionHandoff => "notes"
  | .executionUpdate => "update_id"
  | _ => ""

theorem mark_mem_payloadKeys {kind other : ProposalCommand.Kind}
    (hkind : kind ∈ replayedFromEvents) : kind.mark ∈ other.payloadKeys ↔ other = kind := by
  cases kind <;> first
    | exact absurd hkind (by decide)
    | cases other <;> decide

end ProposalCommand.Kind

theorem keys_of_requestDump (h : requestDump services repository store command = some dump) :
    dump.map Prod.fst = command.kind.payloadKeys := by
  cases command with
  | create | createVersion | reportRequest => cases h
  | narrativeReview =>
    obtain ⟨version, _, h⟩ := Option.bind_eq_some_iff.mp h
    split at h <;> cases h
    rfl
  | _ => cases h; rfl

/-- Requests of different kinds have different hashes, unless the digest collides. -/
theorem kind_eq_of_hash_eq {payloads : List JsonObject} (hfree : services.CollisionFree payloads)
    {other : ProposalCommand} {otherStore : S} {otherDump : JsonObject}
    (h : requestDump services repository store command = some dump)
    (hother : requestDump services repository otherStore other = some otherDump)
    (hmem : dump ∈ payloads) (hothermem : otherDump ∈ payloads)
    (hkind : command.kind ∈ replayedFromEvents)
    (hhash : services.hashCanonicalPayload otherDump = services.hashCanonicalPayload dump) :
    other.kind = command.kind := by
  have hdigest := String.append_right_inj _ |>.mp hhash
  have hcanonical := hfree otherDump hothermem dump hmem hdigest
  have hkeys := Json.mem_keys_of_canonical_eq hcanonical command.kind.mark
  rw [keys_of_requestDump h, keys_of_requestDump hother] at hkeys
  exact (ProposalCommand.Kind.mark_mem_payloadKeys hkind).mp
    (hkeys.mpr ((ProposalCommand.Kind.mark_mem_payloadKeys hkind).mpr rfl))

end Kinds

section Steps

variable {config : ServiceConfig} {services : Services} {ledger : Ledger} {call : Call}

theorem ReplayFindsRecord.repeats (hsound : ledger.Sound services)
    (hfree : services.CollisionFree (ledger.attempt config services call).payloads)
    (hfinds : ReplayFindsRecord services ledger call (ledger.attempt config services call)) :
    ReplayRepeats config services ledger call (ledger.attempt config services call) := by
  intro hkind hreply
  obtain ⟨response, hd⟩ := Plan.isReply_iff.mp hreply
  obtain ⟨arguments, hc⟩ | ⟨key, hash, metadata, hfound⟩ := replays_of_decide hd
  · rw [hc] at hkind
    simp [ProposalCommand.kind, replayedFromEvents] at hkind
  have hrequest := hfound.request
  have hnewest : metadata ∈ call.command.searchKey?.bind
      (newestSearched inMemoryRepository ledger.store call.command) := by
    rw [Option.mem_def, hfound.searched, Option.bind_some, hfound.newest]
  obtain ⟨entry, hentry, hid, hkey, hmem⟩ :=
    hfinds hkind metadata hnewest hash hrequest hfound.agrees
  -- what was written under the key agrees with one hash only
  obtain ⟨hash', hhash', hwritten⟩ := hsound.written entry hentry key (hkey.trans hfound.searched)
  obtain rfl : hash = hash' := ((hwritten metadata hmem).hashAgrees_iff).mp hfound.agrees
  obtain ⟨dump, hdump, hdumpHash⟩ := Option.map_eq_some_iff.mp hrequest
  obtain ⟨otherDump, hotherDump, hotherHash⟩ := Option.map_eq_some_iff.mp hhash'
  obtain ⟨store, hother⟩ := hsound.requested entry hentry
  have hafter : (ledger.attempt config services call).accepted =
      ledger.accepted ++ [ledger.entry config services call] := by
    simp only [Ledger.attempt, Protocol.execute_reply hd]
  refine ⟨entry, hentry, ?_, hid, ?_, hkey, hhash'.trans hrequest.symm,
    List.ne_nil_of_mem hmem⟩
  · refine kind_eq_of_hash_eq hfree hdump (hother.symm.trans hotherDump) ?_ ?_ hkind
      (hotherHash.trans hdumpHash.symm)
    · rw [Ledger.payloads, hafter]
      exact List.mem_filterMap.mpr ⟨_, List.mem_append_right _ (List.mem_singleton_self _), hdump⟩
    · rw [Ledger.payloads, hafter]
      exact List.mem_filterMap.mpr ⟨entry, List.mem_append_left _ hentry, hotherDump⟩
  · rw [hfound.searched]
    exact Option.some_ne_none key

end Steps

/-- In a sequential run in which every replay finds a record that was written under its key, every
replay repeats an accepted command. -/
theorem replays_repeat (config : ServiceConfig) (services : Services) (calls : List Call)
    (hfree : EveryState (Ledger.step config services)
      (fun ledger => services.CollisionFree ledger.payloads) .empty calls)
    (hfinds : EveryStep (Ledger.step config services) (ReplayFindsRecord services) .empty calls) :
    EveryStep (Ledger.step config services) (ReplayRepeats config services) .empty calls := by
  refine EveryStep.of_invariant (I := Ledger.Sound services) ?_ Ledger.sound_empty
    (everyStep_and.mpr ⟨hfree.2, hfinds⟩)
  rintro ledger call after hsound hstep ⟨hfree, hfinds⟩
  cases hstep
  exact ⟨hsound.attempt, hfinds.repeats hsound hfree⟩

/-- An execution update that is delivered twice. -/
def deliveredTwice : List Call :=
  [Sample.call 0 0 (Sample.create "key-1"),
    Sample.call 1 1 (Sample.transition "pp_000" .submittedForRiskReview [] none),
    Sample.call 2 2 (Sample.approve "pp_000" .risk none),
    Sample.call 3 3 (Sample.approve "pp_000" .clientConsent none),
    Sample.call 4 4 (Sample.handOff "pp_000" "oms_req_1" none),
    Sample.call 5 5 (Sample.update "pp_000" "u1" "oms_req_1" .accepted),
    Sample.call 6 6 (Sample.update "pp_000" "u1" "oms_req_1" .accepted)]

theorem replays_repeat_deliveredTwice :
    EveryStep (Ledger.step Sample.config Sample.services)
      (ReplayRepeats Sample.config Sample.services) .empty deliveredTwice :=
  replays_repeat Sample.config Sample.services deliveredTwice (by decide +kernel)
    (by decide +kernel)

/-- A transition whose reason names the key of an execution update that is still to come. -/
def namedInReason : List Call :=
  [Sample.call 0 0 (Sample.create "key-1"),
    Sample.call 1 1 (Sample.transition "pp_000" .submittedForRiskReview
      [("idempotency_key", .str "execution-update:u1")] none),
    Sample.call 2 2 (Sample.approve "pp_000" .risk none),
    Sample.call 3 3 (Sample.approve "pp_000" .clientConsent none),
    Sample.call 4 4 (Sample.handOff "pp_000" "oms_req_1" none),
    Sample.call 5 5 (Sample.update "pp_000" "u1" "oms_req_1" .executed)]

theorem replays_repeat_namedInReason :
    ¬ EveryStep (Ledger.step Sample.config Sample.services)
      (ReplayRepeats Sample.config Sample.services) .empty namedInReason := by
  decide +kernel

end LotusAdvise.Proposals

import LotusAdvise.Proposals.InMemory

/-! # The ledger of accepted commands

A sequential run that keeps book: every accepted command is entered with the payload its
request hash was taken of and the metadata it recorded. The ledger is what laws about
idempotency keys are stated over; no command reads it.
-/

namespace LotusAdvise.Proposals

open Interleaving

structure AcceptedCommand where
  command : ProposalCommand
  request : Option JsonObject
  /-- The metadata of the event and the approval it recorded; none for a replay. -/
  metadata : List JsonObject

def AcceptedCommand.hash (services : Services) (entry : AcceptedCommand) : Option String :=
  entry.request.map services.hashCanonicalPayload

structure Ledger where
  store : InMemoryStore
  accepted : List AcceptedCommand

/-- The metadata that a planned transition records. -/
def plannedMetadata : Plan → List JsonObject
  | .ok (.write (.transitionProposal _ event approval _ _) _ _) =>
    event.reasonJson :: approval.toList.map (·.detailsJson)
  | _ => []

namespace Ledger

def empty : Ledger := ⟨.empty, []⟩

/-- The entry of a command that is accepted now. -/
def entry (config : ServiceConfig) (services : Services) (ledger : Ledger) (call : Call) :
    AcceptedCommand where
  command := call.command
  request := requestDump services inMemoryRepository ledger.store call.command
  metadata := plannedMetadata ((inMemoryLifecycle config services).decide ledger.store call)

/-- A command is tried, and entered when it is accepted. -/
def attempt (config : ServiceConfig) (services : Services) (ledger : Ledger) (call : Call) :
    Ledger :=
  match (inMemoryLifecycle config services).execute ledger.store call with
  | (store, .error _) => { ledger with store }
  | (store, .ok _) => ⟨store, ledger.accepted ++ [ledger.entry config services call]⟩

/-- Every command may be tried. -/
def step (config : ServiceConfig) (services : Services) (ledger : Ledger) (call : Call) :
    Option Ledger :=
  some (ledger.attempt config services call)

/-- The metadata was recorded by a command on the same proposal that carried the same key as its
own. -/
def RecordedUnderKeyOf (ledger : Ledger) (command : ProposalCommand) (metadata : JsonObject) :
    Prop :=
  ∃ entry ∈ ledger.accepted, entry.command.proposalId? = command.proposalId? ∧
    entry.command.searchKey? = command.searchKey? ∧ metadata ∈ entry.metadata

instance (ledger : Ledger) (command : ProposalCommand) (metadata : JsonObject) :
    Decidable (ledger.RecordedUnderKeyOf command metadata) :=
  inferInstanceAs (Decidable (∃ entry ∈ ledger.accepted, _))

/-- The commands of the ledger have stored what they entered. -/
structure Sound (services : Services) (ledger : Ledger) : Prop where
  idsMatch : IdsMatch ledger.store
  requested : ∀ entry ∈ ledger.accepted, ∃ store,
    entry.request = requestDump services inMemoryRepository store entry.command
  stored : ∀ entry ∈ ledger.accepted, ∀ key proposalId, entry.command.searchKey? = some key →
    entry.command.proposalId? = some proposalId → (ledger.store.proposals proposalId).isSome
  written : ∀ entry ∈ ledger.accepted, ∀ key, entry.command.searchKey? = some key →
    ∃ hash, entry.hash services = some hash ∧ ∀ metadata ∈ entry.metadata, Written key hash metadata

/-- A command that is tried fails and is not entered, or is accepted and entered. -/
theorem attempt_cases (config : ServiceConfig) (services : Services) (ledger : Ledger)
    (call : Call) : (∃ store error,
      (inMemoryLifecycle config services).execute ledger.store call = (store, .error error) ∧
      ledger.attempt config services call = { ledger with store }) ∨
    ∃ store response,
      (inMemoryLifecycle config services).execute ledger.store call = (store, .ok response) ∧
      ledger.attempt config services call =
        ⟨store, ledger.accepted ++ [ledger.entry config services call]⟩ := by
  rcases h : (inMemoryLifecycle config services).execute ledger.store call with
    ⟨store, error | response⟩
  · exact .inl ⟨store, error, rfl, by simp only [attempt, h]⟩
  · exact .inr ⟨store, response, rfl, by simp only [attempt, h]⟩

variable {config : ServiceConfig} {services : Services} {ledger : Ledger} {call : Call}

theorem attempt_store : (ledger.attempt config services call).store =
    ((inMemoryLifecycle config services).execute ledger.store call).1 := by
  rcases attempt_cases config services ledger call with ⟨store, error, h, heq⟩ |
    ⟨store, response, h, heq⟩ <;> rw [heq, h]

/-- An accepted command with a key has a request hash, and its records carry both. -/
theorem written_of_accepted {key : String} {store : InMemoryStore} {response : ProposalResponse}
    (h : (inMemoryLifecycle config services).execute ledger.store call = (store, .ok response))
    (hkey : call.command.searchKey? = some key) :
    (∃ proposalId, call.command.proposalId? = some proposalId ∧
      (ledger.store.proposals proposalId).isSome) ∧
    ∃ hash, (ledger.entry config services call).hash services = some hash ∧
      ∀ metadata ∈ (ledger.entry config services call).metadata, Written key hash metadata := by
  rcases Protocol.execute_ok_cases h with ⟨hd, _⟩ | ⟨w, rest, hd, _⟩
  · obtain ⟨arguments, hc⟩ | ⟨key', hash, metadata, hfound⟩ := replays_of_decide hd
    · rw [hc] at hkey
      cases hkey
    · obtain ⟨proposalId, proposal, hid, hp⟩ := hfound.stored
      refine ⟨⟨proposalId, hid, Option.isSome_iff_exists.mpr ⟨proposal, hp⟩⟩, hash,
        hfound.request, ?_⟩
      simp [entry, hd, plannedMetadata]
  · cases planned_of_decide hd with
    | create hc => rw [hc] at hkey; cases hkey
    | version hc => rw [hc] at hkey; cases hkey
    | @move proposalId proposal _ event approval _ hid found _ keyed =>
      obtain ⟨hash, hhash, hevent, happroval⟩ := (keyed key hkey).written
      refine ⟨⟨proposalId, hid, Option.isSome_iff_exists.mpr ⟨proposal, found⟩⟩, hash, hhash, ?_⟩
      simp only [entry, hd, plannedMetadata, List.mem_cons, List.mem_map, Option.mem_toList]
      rintro metadata (rfl | ⟨a, ha, rfl⟩)
      · exact hevent
      · exact happroval a ha

theorem Sound.attempt (h : Sound services ledger) :
    Sound services (ledger.attempt config services call) := by
  have hids : IdsMatch (ledger.attempt config services call).store := by
    rw [attempt_store]
    exact Protocol.execute_invariant (fun _ _ _ => IdsMatch.perform) h.idsMatch
  have hkept : ∀ proposalId, (ledger.store.proposals proposalId).isSome →
      ((ledger.attempt config services call).store.proposals proposalId).isSome := by
    intro proposalId hp
    rw [attempt_store]
    exact Protocol.execute_invariant (I := fun store : InMemoryStore => (store.proposals proposalId).isSome)
      (fun _ _ _ hp hw => InMemoryStore.perform_keeps_proposal hw hp) hp
  rcases attempt_cases config services ledger call with ⟨store, error, hexec, heq⟩ |
    ⟨store, response, hexec, heq⟩
  · rw [heq] at hids hkept ⊢
    exact ⟨hids, h.requested, fun e he key id hk hid => hkept id (h.stored e he key id hk hid),
      h.written⟩
  · rw [heq] at hids hkept ⊢
    refine ⟨hids, fun e he => ?_, fun e he key id hk hid => ?_, fun e he key hk => ?_⟩
    · rcases List.mem_append.mp he with he | he
      · exact h.requested e he
      · obtain rfl := List.mem_singleton.mp he
        exact ⟨ledger.store, rfl⟩
    · rcases List.mem_append.mp he with he | he
      · exact hkept id (h.stored e he key id hk hid)
      · obtain rfl := List.mem_singleton.mp he
        obtain ⟨⟨id', hid', hp⟩, _⟩ := written_of_accepted hexec hk
        obtain rfl := Option.some.inj (hid'.symm.trans hid)
        exact hkept id' hp
    · rcases List.mem_append.mp he with he | he
      · exact h.written e he key hk
      · obtain rfl := List.mem_singleton.mp he
        exact (written_of_accepted hexec hk).2

theorem sound_empty : Sound services empty where
  idsMatch _ _ h := by cases h
  requested _ h := by cases h
  stored _ h := by cases h
  written _ h := by cases h

end Ledger

end LotusAdvise.Proposals

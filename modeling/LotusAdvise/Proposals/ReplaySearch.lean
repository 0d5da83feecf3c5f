import LotusAdvise.Proposals.Commands

/-! # What a command searches for

Five commands look for an earlier record of their key before they record anything. Each
kind searches its own records: an approval sees approvals only, a narrative review sees
review events only, and the others see every event of the proposal.
-/

namespace LotusAdvise.Proposals

open Interleaving

namespace ProposalCommand

/-- The proposal a command is about; a creation has none yet. -/
def proposalId? : ProposalCommand → Option String
  | .create _ => none
  | .createVersion proposalId .. => some proposalId
  | .transition proposalId .. => some proposalId
  | .approval proposalId .. => some proposalId
  | .executionHandoff proposalId .. => some proposalId
  | .executionUpdate proposalId .. => some proposalId
  | .narrativeReview proposalId .. => some proposalId
  | .reportRequest proposalId .. => some proposalId

/-- The key a command looks for among the records of its proposal. -/
def searchKey? : ProposalCommand → Option String
  | .transition _ _ idempotencyKey => normalizeOptionalIdempotencyKey idempotencyKey
  | .approval _ _ idempotencyKey => normalizeOptionalIdempotencyKey idempotencyKey
  | .executionHandoff _ _ idempotencyKey => normalizeOptionalIdempotencyKey idempotencyKey
  | .narrativeReview _ _ _ idempotencyKey => normalizeOptionalIdempotencyKey idempotencyKey
  | .executionUpdate _ payload => some (buildExecutionUpdateIdempotencyKey payload)
  | .create _ | .createVersion .. | .reportRequest .. => none

/-- The eight kinds of command. -/
inductive Kind where
  | create
  | createVersion
  | transition
  | approval
  | executionHandoff
  | executionUpdate
  | narrativeReview
  | reportRequest
deriving DecidableEq

def kind : ProposalCommand → Kind
  | .create _ => .create
  | .createVersion .. => .createVersion
  | .transition .. => .transition
  | .approval .. => .approval
  | .executionHandoff .. => .executionHandoff
  | .executionUpdate .. => .executionUpdate
  | .narrativeReview .. => .narrativeReview
  | .reportRequest .. => .reportRequest

def isApproval : ProposalCommand → Bool
  | .approval .. => true
  | _ => false

end ProposalCommand

theorem executionUpdateKey_ne_empty (payload : ProposalExecutionUpdateRequest) :
    buildExecutionUpdateIdempotencyKey payload ≠ "" := by
  intro h
  exact absurd (String.append_eq_empty_iff.mp h).1 (by decide)

section Search

variable {S : Type} (services : Services) (repository : ProposalRepository S) (store : S)

/-- The metadata of the records a command searches, oldest first. -/
def searchedMetadata : ProposalCommand → List JsonObject
  | .transition proposalId .. => (repository.listEvents store proposalId).map (·.reasonJson)
  | .executionHandoff proposalId .. => (repository.listEvents store proposalId).map (·.reasonJson)
  | .executionUpdate proposalId .. => (repository.listEvents store proposalId).map (·.reasonJson)
  | .approval proposalId .. => (repository.listApprovals store proposalId).map (·.detailsJson)
  | .narrativeReview proposalId .. =>
    match repository.getProposal store proposalId with
    | none => []
    | some proposal => ((repository.listEvents store proposal.proposalId).filter
        fun event => event.eventType = .narrativeReviewed).map (·.reasonJson)
  | .create _ | .createVersion .. | .reportRequest .. => []

/-- The newest metadata that a command finds under a key. -/
def newestSearched (command : ProposalCommand) (key : String) : Option JsonObject :=
  newestCarrying id (searchedMetadata repository store command) key

/-- The payload that the request hash of a command is taken of. -/
def requestDump : ProposalCommand → Option JsonObject
  | .transition _ payload _ => some payload.dump
  | .approval _ payload _ => some payload.dump
  | .executionHandoff _ payload _ => some payload.dump
  | .executionUpdate _ payload => some payload.dump
  | .narrativeReview proposalId versionNo payload _ =>
    (repository.getVersion store proposalId versionNo).bind fun version =>
      match reviewableNarrative version with
      | .ok narrative => some (narrativeReviewDump version
          (services.toStr (JsonObject.get narrative "narrative_id")) payload)
      | .error _ => none
  | .create _ | .createVersion .. | .reportRequest .. => none

def requestHash (command : ProposalCommand) : Option String :=
  (requestDump services repository store command).map services.hashCanonicalPayload

end Search

section Written

variable {key hash : String} {idempotencyKey : Option String}

theorem written_executionHandoffReason (payload : ProposalExecutionHandoffRequest)
    (executionRequestId : String) (hkey : presentKey idempotencyKey = some key) :
    Written key hash (executionHandoffReason payload executionRequestId idempotencyKey hash) := by
  constructor <;> simp [Carries, executionHandoffReason, withIdempotency, hkey, JsonObject.set,
    JsonObject.get_dropNone_cons]

theorem written_executionUpdateReason (payload : ProposalExecutionUpdateRequest) :
    Written (buildExecutionUpdateIdempotencyKey payload) hash
      (executionUpdateReason payload hash) := by
  constructor <;> simp [Carries, executionUpdateReason, JsonObject.get_dropNone_cons]

end Written

/-- An execution update names the handoff that was requested last; other commands need none. -/
def AnswersHandoff {S : Type} (repository : ProposalRepository S) (store : S) :
    ProposalCommand → Prop
  | .executionUpdate proposalId payload =>
    ∃ handoffEvent ∈ latestExecutionRequestedEvent (repository.listEvents store proposalId),
      JsonObject.get handoffEvent.reasonJson "execution_request_id" =
          .str payload.executionRequestId ∧
        JsonObject.get handoffEvent.reasonJson "execution_provider" =
          .str payload.executionProvider
  | _ => True

instance {S : Type} (repository : ProposalRepository S) (store : S) (command : ProposalCommand) :
    Decidable (AnswersHandoff repository store command) := by
  unfold AnswersHandoff
  split <;> infer_instance

/-- A command that records under a key has seen no record with it, and writes the key and its
request hash into the event and the approval. -/
structure RecordsKeyed {S : Type} (services : Services) (repository : ProposalRepository S)
    (store : S) (command : ProposalCommand) (event : ProposalWorkflowEventRecord)
    (approval : Option ProposalApprovalRecordData) (key : String) : Prop where
  unseen : newestSearched repository store command key = none
  written : ∃ hash, requestHash services repository store command = some hash ∧
    Written key hash event.reasonJson ∧ ∀ a ∈ approval, Written key hash a.detailsJson
  approved : approval.isSome = command.isApproval

/-- A command that replays has found, as the newest record of its key, one whose hash agrees. -/
structure FindsReplay {S : Type} (services : Services) (repository : ProposalRepository S)
    (store : S) (command : ProposalCommand) (key hash : String) (metadata : JsonObject) :
    Prop where
  searched : command.searchKey? = some key
  request : requestHash services repository store command = some hash
  newest : newestSearched repository store command key = some metadata
  agrees : HashAgrees metadata hash
  stored : ∃ proposalId proposal, command.proposalId? = some proposalId ∧
    repository.getProposal store proposalId = some proposal

end LotusAdvise.Proposals

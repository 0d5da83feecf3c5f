import LotusAdvise.Proposals.Events

/-! # The repository port

What the lifecycle commands use of a repository: reads, and three atomic writes. A write
is data, so that a command is its reads followed by a list of writes.
-/

namespace LotusAdvise.Proposals

inductive RepositoryWrite where
  /-- `create_proposal_with_version_event_idempotency` -/
  | createProposal (proposal : ProposalRecord) (version : ProposalVersionRecord)
    (event : ProposalWorkflowEventRecord) (idempotency : ProposalIdempotencyRecord)
  | createVersion (version : ProposalVersionRecord)
  | transitionProposal (proposal : ProposalRecord) (event : ProposalWorkflowEventRecord)
    (approval : Option ProposalApprovalRecordData)
    (expectedCurrentState : Option ProposalWorkflowState) (expectedCurrentVersionNo : Option ℕ)

namespace RepositoryWrite

/-- The aggregate a write stores. -/
def proposal? : RepositoryWrite → Option ProposalRecord
  | createProposal proposal .. => some proposal
  | createVersion _ => none
  | transitionProposal proposal .. => some proposal

/-- The version a write stores. -/
def version? : RepositoryWrite → Option ProposalVersionRecord
  | createProposal _ version .. => some version
  | createVersion version => some version
  | transitionProposal .. => none

/-- The event a write appends. -/
def event? : RepositoryWrite → Option ProposalWorkflowEventRecord
  | createProposal _ _ event _ => some event
  | createVersion _ => none
  | transitionProposal _ event .. => some event

end RepositoryWrite

structure ProposalRepository (S : Type) where
  getIdempotency : S → (idempotencyKey : String) → Option ProposalIdempotencyRecord
  getProposal : S → (proposalId : String) → Option ProposalRecord
  getVersion : S → (proposalId : String) → (versionNo : ℕ) → Option ProposalVersionRecord
  listEvents : S → (proposalId : String) → List ProposalWorkflowEventRecord
  listApprovals : S → (proposalId : String) → List ProposalApprovalRecordData
  perform : S → RepositoryWrite → Except ProposalError S

/-- The stored aggregate is the one a transition expects; a transition that states no expectation
does not look at it. -/
def TransitionExpected (current : Option ProposalRecord)
    (expectedCurrentState : Option ProposalWorkflowState) (expectedCurrentVersionNo : Option ℕ) :
    Prop :=
  match expectedCurrentState, expectedCurrentVersionNo with
  | some state, some versionNo =>
    ∃ proposal ∈ current, proposal.currentState = state ∧ proposal.currentVersionNo = versionNo
  | _, _ => True

instance (current : Option ProposalRecord) (expectedCurrentState : Option ProposalWorkflowState)
    (expectedCurrentVersionNo : Option ℕ) :
    Decidable (TransitionExpected current expectedCurrentState expectedCurrentVersionNo) := by
  unfold TransitionExpected
  split <;> infer_instance

def aggregateChanged : ProposalError :=
  .stateConflict "STATE_CONFLICT: proposal aggregate changed during transition"

end LotusAdvise.Proposals

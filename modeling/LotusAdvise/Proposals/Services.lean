import LotusAdvise.Proposals.Requests

/-! # Errors, configuration and the services around the lifecycle

Context resolution, simulation and materialization are outside the lifecycle core: the
commands see them as functions that may fail, like the digest and the timestamp parser.
-/

namespace LotusAdvise.Proposals

/-- The exceptions a command can end with, and the texts they carry. -/
inductive ProposalError where
  | lifecycle (detail : String)
  | notFound (detail : String)
  | validation (detail : String)
  | idempotencyConflict (detail : String)
  | stateConflict (detail : String)
  | transition (detail : String)
  | valueError (detail : String)
  | typeError (detail : String)
  | keyError (key : String)
  | responseInvalid (field : String)
  | integrity (constraint : String)
deriving DecidableEq

structure ServiceConfig where
  requireExpectedState : Bool := false
  requireProposalSimulationFlag : Bool := false
  storeEvidenceBundle : Bool := true
  allowPortfolioIdChangeOnNewVersion : Bool := false

/-- The part of a resolved request that the commands read. -/
structure ResolvedProposalContext where
  inputMode : String
  resolutionSource : String
  portfolioId : String
  enableProposalSimulation : Bool
  mandateId : Option String
  jurisdiction : Option String
  title : Option String
  advisorNotes : Option String
  metadata : JsonObject
  resolvedContext : JsonObject
  simulateRequest : JsonObject

structure ProposalResult where
  status : ProposalCreationStatus
  dump : JsonObject
  gateDecision : Option JsonObject

structure ProposalVersionMaterialization where
  artifact : JsonObject
  evidenceBundle : JsonObject

structure Services where
  /-- The hexadecimal digest of the canonical text of a value in canonical form. -/
  sha256 : Json → String
  fromIsoformat : String → Option DateTime
  /-- `str` of a value that is not a text. -/
  str : Json → String
  resolveCreateRequest : ProposalCreateRequest → Except String ResolvedProposalContext
  resolveVersionRequest : ProposalVersionRequest → Except String ResolvedProposalContext
  runAdvisoryProposalSimulation : ResolvedProposalContext → (requestHash : String) →
    (idempotencyKey correlationId : Option String) → Except ProposalError ProposalResult
  buildProposalVersionMaterialization : ResolvedProposalContext → ProposalResult →
    (createdAt : DateTime) → (contextResolutionOverride replayLineage : Option JsonObject) →
    Except ProposalError ProposalVersionMaterialization
  /-- Whether a stored proposal and version have the content an earlier request form produced. -/
  legacyContentMatches : ProposalRecord → ProposalVersionRecord → ProposalCreateRequest → Bool

namespace Services

variable (services : Services)

def hashCanonicalPayload (payload : JsonObject) : String :=
  "sha256:" ++ services.sha256 (Json.obj payload).canonical

/-- `str(value)`. -/
def toStr : Json → String
  | .str s => s
  | j => services.str j

/-- Two payloads whose canonical forms differ do not have the same digest. -/
def CollisionFree (payloads : List JsonObject) : Prop :=
  ∀ a ∈ payloads, ∀ b ∈ payloads, services.sha256 (Json.obj a).canonical =
    services.sha256 (Json.obj b).canonical → (Json.obj a).canonical = (Json.obj b).canonical

/-- The timestamps a caller supplies, or the error of one that does not parse. -/
def parseTimestamp (text : String) : Except ProposalError DateTime :=
  match services.fromIsoformat text with
  | none => .error (.valueError ("Invalid isoformat string: '" ++ text ++ "'"))
  | some t => .ok t

end Services

/-- The identifiers and the clock reading a command draws while it runs. -/
structure Generated where
  now : DateTime
  eventId : String
  approvalId : String
  executionRequestId : String
  proposalId : String
  proposalVersionId : String

namespace Sample

/-! A small environment in which commands can be run: every request resolves to one portfolio, and
the digest of a value is its text. -/

theorem clock_inRange (minute : ℕ) :
    DateTime.InRange 2026 3 26 9 (minute % 60) 0 0 (some 0) := by
  have : minute % 60 < 60 := Nat.mod_lt minute (by omega)
  refine ⟨by omega, by omega, by decide, by omega, this, by omega, by omega, ?_⟩
  rintro _ ⟨⟩
  omega

def clock (minute : ℕ) : DateTime where
  year := 2026
  month := 3
  day := 26
  hour := 9
  minute := minute % 60
  second := 0
  microsecond := 0
  utcOffset := some 0
  inRange := clock_inRange minute

theorem clock_utc (minute : ℕ) : (clock minute).utcOffset = some 0 := rfl

def resolved : ResolvedProposalContext where
  inputMode := "stateless"
  resolutionSource := "DIRECT_REQUEST"
  portfolioId := "pf_01"
  enableProposalSimulation := true
  mandateId := none
  jurisdiction := some "SG"
  title := none
  advisorNotes := none
  metadata := []
  resolvedContext := [("portfolio_id", .str "pf_01")]
  simulateRequest := []

def services : Services where
  sha256 := Json.text
  fromIsoformat text := (List.range 60).map clock |>.find? fun t => t.isoformat = text
  str := Json.text
  resolveCreateRequest _ := .ok resolved
  resolveVersionRequest _ := .ok resolved
  runAdvisoryProposalSimulation _ _ _ _ := .ok ⟨.ready, [("status", .str "READY")], none⟩
  buildProposalVersionMaterialization _ _ _ _ _ := .ok
    { artifact := [("evidence_bundle", .obj [("hashes", .obj [("artifact_hash", .str "sha256:a")])]),
        ("proposal_narrative", .obj [("narrative_id", .str "pn_001")])]
      evidenceBundle := [] }
  legacyContentMatches _ _ _ := false

def config : ServiceConfig := {}

/-- The draws of the `n`-th call. -/
def drawn (n : ℕ) (now : DateTime) : Generated :=
  let mark := String.ofList (Text.pad 3 n)
  { now
    eventId := "pwe_" ++ mark
    approvalId := "pap_" ++ mark
    executionRequestId := "pex_" ++ mark
    proposalId := "pp_" ++ mark
    proposalVersionId := "ppv_" ++ mark }

end Sample

end LotusAdvise.Proposals

import LotusAdvise.Advisory.ResultPayload

/-! # Decisions from source effects

The effects of a proposal are taken from a payload of another service, without its decisions. The
decisions are made again from the effects, and those of the payload are only compared with them.
-/

namespace LotusAdvise.Advisory

open Payloads

structure CoreProjectedTransactionEffects where
  proposalRunId : String
  correlationId : String
  coreReportedStatus : ProposalStatus
  before : SimulatedState
  intents : List ProposalOrderIntent
  afterSimulated : SimulatedState
  reconciliation : Option Reconciliation
  ruleResults : List RuleResult
  explanation : JsonObject
  diagnostics : DiagnosticsData
  allocationLens : ProposalAllocationLens
  lineage : LineageData

structure CoreDecisionCompatibilitySnapshot where
  reportedStatus : Option String
  suitability : Option JsonObject
  gateDecision : Option JsonObject
  proposalDecisionSummary : Option JsonObject
  proposalAlternatives : Option JsonObject
  driftAnalysis : Option JsonObject

section Mapping

open Fields (field)

variable (texts : DecimalTexts) (payload : JsonObject)

def effectsFields : Fields ["proposal_run_id", "correlation_id", "core_reported_status", "before",
    "intents", "after_simulated", "reconciliation", "rule_results", "explanation", "diagnostics",
    "allocation_lens", "lineage"] CoreProjectedTransactionEffects :=
  (field "proposal_run_id" .text
    |>.and (field "correlation_id" .text)
    |>.and (field "core_reported_status" proposalStatusCodec)
    |>.and (field "before" (simulatedStateFields texts).model)
    |>.and (field "intents" (intentCodec texts).list)
    |>.and (field "after_simulated" (simulatedStateFields texts).model)
    |>.and (field "reconciliation" (optionalReconciliation texts) (some none))
    |>.and (field "rule_results" (ruleResultFields texts).model.list (some []))
    |>.and (field "explanation" .object)
    |>.and (field "diagnostics" (diagnosticsFields texts).model)
    |>.and (field "allocation_lens" allocationLensFields.model (some {}))
    |>.and (field "lineage" lineageFields.model)).map
    (fun (((((((((((proposalRunId, correlationId), coreReportedStatus), before), intents),
        afterSimulated), reconciliation), ruleResults), explanation), diagnostics),
        allocationLens), lineage) =>
      { proposalRunId, correlationId, coreReportedStatus, before, intents, afterSimulated
        reconciliation, ruleResults, explanation, diagnostics, allocationLens, lineage })
    (fun effects => (((((((((((effects.proposalRunId, effects.correlationId),
      effects.coreReportedStatus), effects.before), effects.intents), effects.afterSimulated),
      effects.reconciliation), effects.ruleResults), effects.explanation), effects.diagnostics),
      effects.allocationLens), effects.lineage))

/-- `_CORE_DECISION_PAYLOAD_FIELDS`. -/
def coreDecisionPayloadFields : List String :=
  ["suitability", "gate_decision", "proposal_decision_summary", "proposal_alternatives",
    "drift_analysis"]

def sourceEffectPayload : JsonObject :=
  Dict.set (payload.filter fun item => item.1 ∉ coreDecisionPayloadFields ++ ["status"])
    "core_reported_status" ((Dict.get? payload "status").getD .null)

/-- The effects are validated without the decisions; fields that they do not have are forbidden. -/
def mapCorePayloadToProjectedTransactionEffects : Option CoreProjectedTransactionEffects :=
  (effectsFields texts).validateStrict (sourceEffectPayload payload)

def dictOrNone : Option Json → Option JsonObject
  | some (.obj value) => some value
  | _ => none

def extractCoreDecisionCompatibilitySnapshot : CoreDecisionCompatibilitySnapshot where
  reportedStatus :=
    match Dict.get? payload "status" with
    | some (.str status) => some status
    | _ => none
  suitability := dictOrNone (Dict.get? payload "suitability")
  gateDecision := dictOrNone (Dict.get? payload "gate_decision")
  proposalDecisionSummary := dictOrNone (Dict.get? payload "proposal_decision_summary")
  proposalAlternatives := dictOrNone (Dict.get? payload "proposal_alternatives")
  driftAnalysis := dictOrNone (Dict.get? payload "drift_analysis")

end Mapping

section Parity

structure ParityMismatch where
  field : String
  coreValue : String
  adviseValue : Option String

structure ParityReport where
  comparedFields : List String := []
  mismatches : List ParityMismatch := []

/-- A field that the payload does not have is not compared. -/
def appendParityMismatch (report : ParityReport) (field : String)
    (coreValue adviseValue : Option String) : ParityReport :=
  match coreValue with
  | none => report
  | some value =>
    { comparedFields := report.comparedFields ++ [field]
      mismatches := report.mismatches ++
        if adviseValue = some value then []
        else [{ field, coreValue := value, adviseValue }] }

variable (services : EngineServices) (snapshot : CoreDecisionCompatibilitySnapshot)
  (adviseStatus : ProposalStatus) (adviseSuitability : Option SuitabilityResult)
  (adviseGateDecision : Option GateDecision)

/-- `_string_value(value)`. -/
def stringValue : Option Json → Option String
  | none => none
  | some .null => none
  | some (.str value) => some value
  | some value => some (services.str value)

def compareSuitabilityParity (report : ParityReport) : ParityReport :=
  match snapshot.suitability with
  | none => report
  | some coreSuitability =>
    let compared :=
      match Dict.get? coreSuitability "summary" with
      | some (.obj summary) =>
        appendParityMismatch
          (appendParityMismatch report "suitability.summary.new_count"
            (stringValue services (Dict.get? summary "new_count"))
            (stringValue services (adviseSuitability.map fun suitability =>
              .int suitability.summary.newCount)))
          "suitability.summary.persistent_count"
          (stringValue services (Dict.get? summary "persistent_count"))
          (stringValue services (adviseSuitability.map fun suitability =>
            .int suitability.summary.persistentCount))
      | _ => report
    appendParityMismatch compared "suitability.recommended_gate"
      (stringValue services (Dict.get? coreSuitability "recommended_gate"))
      (adviseSuitability.map SuitabilityResult.recommendedGate)

def compareGateParity (report : ParityReport) : ParityReport :=
  match snapshot.gateDecision with
  | none => report
  | some coreGate =>
    appendParityMismatch
      (appendParityMismatch report "gate_decision.gate"
        (stringValue services (Dict.get? coreGate "gate"))
        (adviseGateDecision.map fun decision => decision.gate.text))
      "gate_decision.recommended_next_step"
      (stringValue services (Dict.get? coreGate "recommended_next_step"))
      (adviseGateDecision.map fun decision => decision.recommendedNextStep.text)

def parityReport : ParityReport :=
  compareGateParity services snapshot adviseGateDecision
    (compareSuitabilityParity services snapshot adviseSuitability
      (appendParityMismatch {} "status" snapshot.reportedStatus (some adviseStatus.text)))

def coreDecisionParityReport : JsonObject :=
  let report := parityReport services snapshot adviseStatus adviseSuitability adviseGateDecision
  [("status", .str (if report.mismatches.isEmpty then "MATCH" else "MISMATCH")),
    ("compared_fields", .arr (report.comparedFields.map .str)),
    ("mismatches", .arr (report.mismatches.map fun mismatch => .obj [
      ("field", .str mismatch.field),
      ("core_value", .str mismatch.coreValue),
      ("advise_value", dumpOptional .str mismatch.adviseValue)])),
    ("core_decisions_authoritative", .bool false)]

end Parity

section Rebuilding

def adviseDecisionCalculationVersion : String :=
  "lotus-advise.advisory-decision-support.v1"

variable (services : EngineServices) (texts : DecimalTexts) (request : DecisionRequest)
  (effects : CoreProjectedTransactionEffects) (snapshot : CoreDecisionCompatibilitySnapshot)
  (policyContext : Option JsonObject)

/-- A value that does not reconcile blocks, whatever the rules say. -/
def adviseStatusFromSourceEffects : ProposalStatus :=
  if effects.reconciliation.any fun reconciliation => reconciliation.status = .mismatch then
    .blocked
  else deriveStatusFromRules effects.ruleResults

def sourceEffectHashPayload : JsonObject :=
  ((effectsFields texts).dump { effects with
    before := effects.before.serialized
    afterSimulated := effects.afterSimulated.serialized }).filter
      fun item => item.1 ≠ "core_reported_status"

def coreProjectedTransactionEffects : JsonObject := [
  ("source_service", .str "lotus-core"),
  ("contract_version", dumpOptional .str effects.lineage.simulationContractVersion),
  ("source_effects_hash", .str ("sha256:" ++
    services.canonicalDigest (Json.obj (sourceEffectHashPayload texts effects)).canonical)),
  ("request_hash", .str effects.lineage.requestHash),
  ("portfolio_snapshot_id", .str effects.lineage.portfolioSnapshotId),
  ("market_data_snapshot_id", .str effects.lineage.marketDataSnapshotId),
  ("core_reported_status", .str effects.coreReportedStatus.text),
  ("core_reported_status_authoritative", .bool false),
  ("advise_calculation_version", .str adviseDecisionCalculationVersion)]

/-- `snapshot.model_dump(mode="json", exclude_none=True)`. -/
def dumpSnapshot : JsonObject :=
  [("reported_status", snapshot.reportedStatus.map .str),
    ("suitability", snapshot.suitability.map .obj),
    ("gate_decision", snapshot.gateDecision.map .obj),
    ("proposal_decision_summary", snapshot.proposalDecisionSummary.map .obj),
    ("proposal_alternatives", snapshot.proposalAlternatives.map .obj),
    ("drift_analysis", snapshot.driftAnalysis.map Json.obj)].filterMap
      fun item => item.2.map fun value => (item.1, value)

def hasCoreDecisionPayload : Bool := !(dumpSnapshot snapshot).isEmpty

def adviseSourceEffectExplanation (adviseStatus : ProposalStatus)
    (adviseSuitability : Option SuitabilityResult) (adviseGateDecision : Option GateDecision) :
    JsonObject :=
  let explanation := Dict.set effects.explanation "core_projected_transaction_effects"
    (.obj (coreProjectedTransactionEffects services texts effects))
  if hasCoreDecisionPayload snapshot then
    Dict.set
      (Dict.set explanation "non_authoritative_core_decisions" (.obj (dumpSnapshot snapshot)))
      "core_decision_parity" (.obj (coreDecisionParityReport services snapshot adviseStatus
        adviseSuitability adviseGateDecision))
  else explanation

/-- The diagnostics of the effects are those after the decision support, which may warn. -/
def buildAdviseOwnedProposalResultFromSourceEffects : DecidedProposalResult :=
  let status := adviseStatusFromSourceEffects effects
  let support := buildSimulationDecisionSupport services.upper request effects.diagnostics
    effects.before effects.afterSimulated effects.intents status effects.ruleResults policyContext
  let decided := { effects with diagnostics := support.2 }
  { proposalRunId := effects.proposalRunId
    correlationId := effects.correlationId
    status
    before := effects.before
    intents := effects.intents
    afterSimulated := effects.afterSimulated
    reconciliation := effects.reconciliation
    ruleResults := effects.ruleResults
    explanation := adviseSourceEffectExplanation services texts decided snapshot status
      support.1.suitability support.1.gateDecision
    diagnostics := support.2
    driftAnalysis := support.1.driftAnalysis
    suitability := support.1.suitability
    gateDecision := support.1.gateDecision
    allocationLens := effects.allocationLens
    lineage := effects.lineage }

/-- A payload, mapped and decided again. -/
def rebuildFromPayload (payload : JsonObject) : Option DecidedProposalResult :=
  (mapCorePayloadToProjectedTransactionEffects texts payload).map fun effects =>
    buildAdviseOwnedProposalResultFromSourceEffects services texts request effects
      (extractCoreDecisionCompatibilitySnapshot payload) policyContext

/-- The status of the parity report of a result. -/
def parityStatus (result : DecidedProposalResult) : Option Json :=
  match Dict.get? result.explanation "core_decision_parity" with
  | some (.obj report) => Dict.get? report "status"
  | _ => none

end Rebuilding

section RoundTrip

variable {texts : DecimalTexts} {result : DecidedProposalResult}

/-- The effects of a result, as far as they are dumped. -/
def DecidedProposalResult.effects (result : DecidedProposalResult) :
    CoreProjectedTransactionEffects where
  proposalRunId := result.proposalRunId
  correlationId := result.correlationId
  coreReportedStatus := result.status
  before := result.before.serialized
  intents := result.intents
  afterSimulated := result.afterSimulated.serialized
  reconciliation := result.reconciliation
  ruleResults := result.ruleResults
  explanation := result.explanation
  diagnostics := result.diagnostics
  allocationLens := result.allocationLens
  lineage := result.lineage

/-- The decisions are left out, and the status is kept under another name. -/
theorem sourceEffectPayload_dumpResult : sourceEffectPayload (dumpResult texts result) = [
    ("proposal_run_id", .str result.proposalRunId),
    ("correlation_id", .str result.correlationId),
    ("before", dumpState texts result.before),
    ("intents", (intentCodec texts).list.dump result.intents),
    ("after_simulated", dumpState texts result.afterSimulated),
    ("reconciliation", (optionalReconciliation texts).dump result.reconciliation),
    ("rule_results", (ruleResultFields texts).model.list.dump result.ruleResults),
    ("explanation", .obj result.explanation),
    ("diagnostics", (diagnosticsFields texts).model.dump result.diagnostics),
    ("allocation_lens", allocationLensFields.model.dump result.allocationLens),
    ("lineage", lineageFields.model.dump result.lineage),
    ("core_reported_status", proposalStatusCodec.dump result.status)] := by
  rfl

/-- The effects of a result come out of its payload. -/
theorem map_dumpResult :
    mapCorePayloadToProjectedTransactionEffects texts (dumpResult texts result) =
      some result.effects := by
  unfold mapCorePayloadToProjectedTransactionEffects
  rw [sourceEffectPayload_dumpResult]
  refine Fields.validateStrict_of_perm _ ?_ (by decide)
  -- the status comes third among the effects, and last in what is left of the payload
  have hstatus : ∀ rest : JsonObject,
      (rest ++ [("core_reported_status", proposalStatusCodec.dump result.status)]).Perm
        (("core_reported_status", proposalStatusCodec.dump result.status) :: rest) :=
    fun rest => List.perm_append_comm
  exact ((hstatus [_, _, _, _, _, _, _, _, _]).cons _).cons _

theorem dumpResult_status :
    (extractCoreDecisionCompatibilitySnapshot (dumpResult texts result)).reportedStatus =
      some result.status.text := rfl

theorem dictOrNone_dumpOptional {α : Type} {dump : α → JsonObject} {value : Option α} :
    dictOrNone (some (dumpOptional (fun a => .obj (dump a)) value)) = value.map dump := by
  cases value <;> rfl

theorem dumpResult_suitability :
    (extractCoreDecisionCompatibilitySnapshot (dumpResult texts result)).suitability =
      result.suitability.map (dumpSuitability texts) :=
  dictOrNone_dumpOptional

theorem dumpResult_gateDecision :
    (extractCoreDecisionCompatibilitySnapshot (dumpResult texts result)).gateDecision =
      result.gateDecision.map dumpGateDecision :=
  dictOrNone_dumpOptional

end RoundTrip

section Agreement

variable {services : EngineServices} {texts : DecimalTexts} {report : ParityReport}
  {field : String} {coreValue adviseValue : Option String}

theorem mismatches_append (h : coreValue = adviseValue) :
    (appendParityMismatch report field coreValue adviseValue).mismatches = report.mismatches := by
  subst h
  unfold appendParityMismatch
  cases coreValue with
  | none => rfl
  | some value =>
    dsimp only
    rw [if_pos rfl, List.append_nil]

variable {snapshot : CoreDecisionCompatibilitySnapshot} {suitability : Option SuitabilityResult}
  {gateDecision : Option GateDecision} {status : ProposalStatus}

theorem mismatches_compareSuitability
    (h : snapshot.suitability = suitability.map (dumpSuitability texts)) :
    (compareSuitabilityParity services snapshot suitability report).mismatches =
      report.mismatches := by
  unfold compareSuitabilityParity
  rw [h]
  cases suitability with
  | none => rfl
  | some suitability =>
    refine (mismatches_append rfl).trans ?_
    exact (mismatches_append rfl).trans (mismatches_append rfl)

theorem mismatches_compareGate (h : snapshot.gateDecision = gateDecision.map dumpGateDecision) :
    (compareGateParity services snapshot gateDecision report).mismatches = report.mismatches := by
  unfold compareGateParity
  rw [h]
  cases gateDecision with
  | none => rfl
  | some decision => exact (mismatches_append rfl).trans (mismatches_append rfl)

/-- Decisions are in parity with their own dump. -/
theorem mismatches_parityReport (services : EngineServices)
    (hstatus : snapshot.reportedStatus = some status.text)
    (hsuitability : snapshot.suitability = suitability.map (dumpSuitability texts))
    (hgate : snapshot.gateDecision = gateDecision.map dumpGateDecision) :
    (parityReport services snapshot status suitability gateDecision).mismatches = [] := by
  unfold parityReport
  rw [mismatches_compareGate hgate, mismatches_compareSuitability hsuitability,
    mismatches_append hstatus]

variable {request : DecisionRequest} {effects : CoreProjectedTransactionEffects}
  {policyContext : Option JsonObject} {call : SimulationCall} {result : DecidedProposalResult}

/-- Effects are decided in parity with a snapshot of the decisions that are made from them. -/
theorem parityStatus_build
    (hstatus : snapshot.reportedStatus = some (adviseStatusFromSourceEffects effects).text)
    (hsuitability : snapshot.suitability =
      (buildAdviseOwnedProposalResultFromSourceEffects services texts request effects snapshot
        policyContext).suitability.map (dumpSuitability texts))
    (hgate : snapshot.gateDecision =
      (buildAdviseOwnedProposalResultFromSourceEffects services texts request effects snapshot
        policyContext).gateDecision.map dumpGateDecision) :
    parityStatus (buildAdviseOwnedProposalResultFromSourceEffects services texts request effects
      snapshot policyContext) = some (.str "MATCH") := by
  have hpayload : hasCoreDecisionPayload snapshot = true := by
    rw [hasCoreDecisionPayload, dumpSnapshot, hstatus]
    rfl
  have hmismatches := mismatches_parityReport services hstatus hsuitability hgate
  generalize hrebuilt : buildAdviseOwnedProposalResultFromSourceEffects services texts request
    effects snapshot policyContext = rebuilt at *
  have hexplanation : rebuilt.explanation = adviseSourceEffectExplanation services texts
      { effects with diagnostics := rebuilt.diagnostics } snapshot
      (adviseStatusFromSourceEffects effects) rebuilt.suitability rebuilt.gateDecision := by
    rw [← hrebuilt]
    rfl
  unfold parityStatus
  rw [hexplanation, adviseSourceEffectExplanation, if_pos hpayload, Dict.get?_set_self]
  dsimp only [coreDecisionParityReport]
  rw [hmismatches]
  rfl

theorem adviseStatus_effects (h : result.status = deriveStatusFromRules result.ruleResults)
    (hmismatch : ∀ reconciliation ∈ result.reconciliation, reconciliation.status = .mismatch →
      result.status = .blocked) :
    adviseStatusFromSourceEffects result.effects = result.status := by
  unfold adviseStatusFromSourceEffects
  split
  · next hany =>
    obtain ⟨reconciliation, hmem, hstatus⟩ := (Option.any_eq_true _ _).mp hany
    exact (hmismatch reconciliation hmem (of_decide_eq_true hstatus)).symm
  · exact h.symm

/-- A simulation is decided as its rules say, and blocked if its value does not reconcile. -/
theorem adviseStatus_runDecidedSimulation :
    adviseStatusFromSourceEffects (runDecidedSimulation services request call).effects =
      (runDecidedSimulation services request call).status := by
  apply adviseStatus_effects
  · exact finalStatus_eq_deriveStatus
  · rintro reconciliation hmem hstatus
    obtain rfl := Option.some.inj hmem
    exact finalStatus_of_mismatch hstatus

section Support

variable {upper : String → String} {diagnostics diagnostics' : DiagnosticsData}
  {before after : SimulatedState} {intents : List ProposalOrderIntent}
  {ruleResults : List RuleResult}

theorem buildDriftAnalysis_serialized (diagnostics diagnostics' : DiagnosticsData) :
    (buildDriftAnalysis request diagnostics' before.serialized after.serialized intents).1 =
      (buildDriftAnalysis request diagnostics before after intents).1 := by
  unfold buildDriftAnalysis
  cases request.referenceModel with
  | none => rfl
  | some referenceModel =>
    dsimp only
    split
    · rfl
    · split <;> rfl

theorem buildSuitability_serialized :
    buildSuitability upper request before.serialized after.serialized policyContext =
      buildSuitability upper request before after policyContext := rfl

/-- The warning about the reference model is no missing data. -/
theorem dataQuality_buildDriftAnalysis :
    (buildDriftAnalysis request diagnostics before after intents).2.dataQuality =
      diagnostics.dataQuality := by
  unfold buildDriftAnalysis
  cases request.referenceModel with
  | none => rfl
  | some referenceModel =>
    dsimp only
    split
    · rfl
    · split <;> rfl

theorem buildGateDecision_congr (h : diagnostics'.dataQuality = diagnostics.dataQuality) :
    buildGateDecision request diagnostics' status ruleResults suitability =
      buildGateDecision request diagnostics status ruleResults suitability := by
  unfold buildGateDecision evaluateGateDecision dqReasons
  rw [Option.map_some, Option.map_some, h]

/-- The decision support of a simulation does not see that the weights of the positions are rounded
in its payload, nor what it has warned about. -/
theorem decisionSupport_serialized :
    (buildSimulationDecisionSupport upper request
      (buildSimulationDecisionSupport upper request diagnostics before after intents status
        ruleResults policyContext).2 before.serialized after.serialized intents status ruleResults
        policyContext).1 =
      (buildSimulationDecisionSupport upper request diagnostics before after intents status
        ruleResults policyContext).1 := by
  unfold buildSimulationDecisionSupport
  dsimp only
  rw [buildDriftAnalysis_serialized diagnostics, buildSuitability_serialized]
  congr 1
  apply buildGateDecision_congr
  rw [dataQuality_buildDriftAnalysis]

end Support

theorem decisionSupport_effects (services : EngineServices) (request : DecisionRequest)
    (call : SimulationCall) : (buildSimulationDecisionSupport services.upper request
      (runDecidedSimulation services request call).effects.diagnostics
      (runDecidedSimulation services request call).effects.before
      (runDecidedSimulation services request call).effects.afterSimulated
      (runDecidedSimulation services request call).effects.intents
      (runDecidedSimulation services request call).status
      (runDecidedSimulation services request call).effects.ruleResults call.policyContext).1 =
      (simulatedDecisionSupport services request call).1 :=
  decisionSupport_serialized

/-- A simulation, taken as effects from its own payload, is decided as it was, and its decisions are
in parity with those of the payload. -/
theorem rebuild_agrees (services : EngineServices) (texts : DecimalTexts)
    (request : DecisionRequest) (call : SimulationCall) :
    ∃ rebuilt, rebuildFromPayload services texts request call.policyContext
        (dumpResult texts (runDecidedSimulation services request call)) = some rebuilt ∧
      rebuilt.status = (runDecidedSimulation services request call).status ∧
      rebuilt.suitability = (runDecidedSimulation services request call).suitability ∧
      rebuilt.gateDecision = (runDecidedSimulation services request call).gateDecision ∧
      rebuilt.driftAnalysis = (runDecidedSimulation services request call).driftAnalysis ∧
      parityStatus rebuilt = some (.str "MATCH") := by
  have hstatus : adviseStatusFromSourceEffects
      (runDecidedSimulation services request call).effects =
      (runDecidedSimulation services request call).status := adviseStatus_runDecidedSimulation
  have hsupport := decisionSupport_effects services request call
  rw [← hstatus] at hsupport
  unfold rebuildFromPayload
  rw [map_dumpResult, Option.map_some]
  refine ⟨_, rfl, hstatus, ?_, ?_, ?_, ?_⟩
  · exact congrArg SimulationDecisionSupport.suitability hsupport
  · exact congrArg SimulationDecisionSupport.gateDecision hsupport
  · exact congrArg SimulationDecisionSupport.driftAnalysis hsupport
  · apply parityStatus_build
    · rw [hstatus]
      exact dumpResult_status
    · rw [dumpResult_suitability]
      exact congrArg (Option.map _) (congrArg SimulationDecisionSupport.suitability hsupport).symm
    · rw [dumpResult_gateDecision]
      exact congrArg (Option.map _) (congrArg SimulationDecisionSupport.gateDecision hsupport).symm

end Agreement

end LotusAdvise.Advisory

import LotusAdvise.Alternatives.BatchOutcomes
import LotusAdvise.Foundations.Text

/-! # The partition of a batch

Every candidate of a batch is reported once. One within the limit is reported as in a batch of its
own, so that the cache cannot be seen; the others are rejected.
-/

namespace LotusAdvise.Alternatives

section Statements

variable (services : AlternativeServices) (evaluate : Json → Except String ProposalResult)
  (baseRequest : JsonObject) (request : NormalizedProposalAlternativesRequest)
  (candidates : List AlternativeCandidateSeed)

structure Partitioned (state : BatchState) : Prop where
  reported : (state.evaluation.alternatives.map ProposalAlternative.alternativeId ++
      state.evaluation.rejectedCandidates.map RejectedAlternativeCandidate.candidateId).Perm
    (candidates.map AlternativeCandidateSeed.candidateId)
  alone : ∀ candidate ∈ candidates.take request.maxAlternatives, ∃ single,
    evaluateAlternativeCandidatesBatch services evaluate baseRequest request [candidate] =
      .ok single ∧
    state.evaluation.reportsOf candidate.candidateId = single.evaluation
  overflow : ∀ candidate ∈ candidates.drop request.maxAlternatives,
    state.evaluation.reportsOf candidate.candidateId =
      { rejectedCandidates := [overflowRejection candidate] }
  evaluatedOnce : state.evaluated.Nodup
  evaluatedAtMost : state.evaluated.length ≤ request.maxAlternatives
  records : state.evaluation.simulationRecords.map AlternativeSimulationRecord.candidateId =
    ((candidates.take request.maxAlternatives).filter (built services baseRequest)).map
      AlternativeCandidateSeed.candidateId

end Statements

section Partitions

variable {services : AlternativeServices} {evaluate : Json → Except String ProposalResult}
  {baseRequest : JsonObject} {request : NormalizedProposalAlternativesRequest}
  {candidate : AlternativeCandidateSeed} {candidates : List AlternativeCandidateSeed}
  {outcome : AlternativesBatchEvaluation} {outcomes : List AlternativesBatchEvaluation}
  {exception : String}

/-- The reports of the candidates beyond the limit. -/
def overflowed (candidates : List AlternativeCandidateSeed) : List AlternativesBatchEvaluation :=
  candidates.map fun candidate => { rejectedCandidates := [overflowRejection candidate] }

theorem overflowed_spec (candidates : List AlternativeCandidateSeed) :
    List.Forall₂ (fun candidate outcome =>
      outcome = { rejectedCandidates := [overflowRejection candidate] })
      candidates (overflowed candidates) := by
  induction candidates with
  | nil => exact .nil
  | cons candidate rest ih => exact .cons rfl ih

theorem reportsOnly_overflowed (candidates : List AlternativeCandidateSeed) :
    List.Forall₂ ReportsOnly candidates (overflowed candidates) :=
  (overflowed_spec candidates).imp fun _ _ h => h ▸ reportsOnly_overflow

theorem foldl_overflowRejection (evaluation : AlternativesBatchEvaluation) :
    candidates.foldl (fun evaluation candidate =>
        reportResult evaluation (.inr (overflowRejection candidate))) evaluation =
      evaluation.joined (gathered (overflowed candidates)) := by
  induction candidates generalizing evaluation with
  | nil => exact (joined_empty _).symm
  | cons candidate rest ih =>
    rw [List.foldl_cons, ih, reportResult_eq, joined_assoc]
    rfl

theorem records_overflowed (candidates : List AlternativeCandidateSeed) :
    (gathered (overflowed candidates)).simulationRecords = [] := by
  induction candidates with
  | nil => rfl
  | cons candidate rest ih => exact ih

theorem records_gathered
    (h : List.Forall₂ (Outcome services evaluate baseRequest) candidates outcomes) :
    (gathered outcomes).simulationRecords.map AlternativeSimulationRecord.candidateId =
      (candidates.filter (built services baseRequest)).map
        AlternativeCandidateSeed.candidateId := by
  induction h with
  | nil => rfl
  | @cons first firstOutcome rest restOutcomes hfirst hrest ih =>
    have hsplit : (first :: rest).filter (built services baseRequest) =
        [first].filter (built services baseRequest) ++ rest.filter (built services baseRequest) :=
      List.filter_append [first] rest
    rw [hsplit, List.map_append, ← hfirst.records, ← ih, gathered_cons]
    exact List.map_append

theorem collisionFree_singleton : CollisionFree services baseRequest [candidate] := by
  intro a ha b hb payload payload' hbuild hbuild' _
  rw [List.mem_singleton.mp ha] at hbuild
  rw [List.mem_singleton.mp hb, hbuild] at hbuild'
  exact Except.ok.inj hbuild'

theorem evaluate_singleton (hlimit : 0 < request.maxAlternatives) :
    evaluateAlternativeCandidatesBatch services evaluate baseRequest request [candidate] =
      evaluateCandidate services evaluate baseRequest {} candidate := by
  have hwithin : [candidate].take request.maxAlternatives = [candidate] :=
    List.take_of_length_le hlimit
  have hbeyond : [candidate].drop request.maxAlternatives = [] :=
    List.drop_of_length_le hlimit
  unfold evaluateAlternativeCandidatesBatch
  rw [hwithin, hbeyond, List.foldlM_cons]
  cases evaluateCandidate services evaluate baseRequest {} candidate <;> rfl

/-- A batch of one reports the outcome of its candidate. -/
theorem Outcome.alone (hlimit : 0 < request.maxAlternatives)
    (h : Outcome services evaluate baseRequest candidate outcome) :
    ∃ single,
      evaluateAlternativeCandidatesBatch services evaluate baseRequest request [candidate] =
        .ok single ∧
      single.evaluation = outcome := by
  obtain ⟨next, hnext, -, hevaluation, -⟩ :=
    inv_empty.step collisionFree_singleton List.mem_cons_self h
  exact ⟨next, (evaluate_singleton hlimit).trans hnext, hevaluation.trans (empty_joined outcome)⟩

theorem Failure.alone (hlimit : 0 < request.maxAlternatives)
    (h : Failure services evaluate baseRequest candidate exception) :
    evaluateAlternativeCandidatesBatch services evaluate baseRequest request [candidate] =
      .error exception :=
  (evaluate_singleton hlimit).trans
    (inv_empty.fails collisionFree_singleton List.mem_cons_self h)

theorem limit_pos (h : candidate ∈ candidates.take request.maxAlternatives) :
    0 < request.maxAlternatives := by
  refine Nat.pos_of_ne_zero fun hzero => ?_
  rw [hzero] at h
  cases h

/-- A batch whose loop has reported its candidates as alone partitions them. -/
theorem partitioned_of_run {state : BatchState}
    (hids : (candidates.map AlternativeCandidateSeed.candidateId).Nodup)
    (houtcomes : List.Forall₂ (Outcome services evaluate baseRequest)
      (candidates.take request.maxAlternatives) outcomes)
    (hinv : Inv services evaluate baseRequest (candidates.take request.maxAlternatives) state)
    (hlength : state.evaluated.length ≤ (candidates.take request.maxAlternatives).length) :
    Partitioned services evaluate baseRequest request candidates { state with
      evaluation := gathered
        (outcomes ++ overflowed (candidates.drop request.maxAlternatives)) } := by
  have hreports : List.Forall₂ ReportsOnly (candidates.take request.maxAlternatives) outcomes :=
    houtcomes.imp fun _ _ h => h.reportsOnly
  have hall : List.Forall₂ ReportsOnly candidates
      (outcomes ++ overflowed (candidates.drop request.maxAlternatives)) := by
    rw [← List.take_append_drop request.maxAlternatives candidates]
    refine List.rel_append hreports ?_
    rw [List.take_append_drop]
    exact reportsOnly_overflowed _
  have hsplit := hids
  rw [← List.take_append_drop request.maxAlternatives candidates, List.map_append,
    List.nodup_append] at hsplit
  obtain ⟨hwithin, hbeyond, hdisjoint⟩ := hsplit
  refine ⟨reported_gathered hall, ?_, ?_, hinv.once, ?_, ?_⟩
  · intro candidate hcandidate
    have hid := List.mem_map_of_mem (f := AlternativeCandidateSeed.candidateId) hcandidate
    have houtcome := reportsOf_gathered houtcomes (fun _ _ h => h.reportsOnly) hwithin hcandidate
    obtain ⟨single, hsingle, heq⟩ := houtcome.alone (limit_pos hcandidate)
    refine ⟨single, hsingle, ?_⟩
    dsimp only
    rw [heq, gathered_append, reportsOf_joined,
      reportsOf_gathered_of_notMem (reportsOnly_overflowed _)
        (fun hmem => hdisjoint _ hid _ hmem rfl), joined_empty]
  · intro candidate hcandidate
    have hid := List.mem_map_of_mem (f := AlternativeCandidateSeed.candidateId) hcandidate
    dsimp only
    rw [gathered_append, reportsOf_joined,
      reportsOf_gathered_of_notMem hreports (fun hmem => hdisjoint _ hmem _ hid rfl), empty_joined]
    exact (reportsOf_gathered (overflowed_spec _) (fun _ _ h => h ▸ reportsOnly_overflow) hbeyond
      hcandidate)
  · exact hlength.trans (List.length_take_le _ _)
  · dsimp only
    rw [gathered_append]
    dsimp only [AlternativesBatchEvaluation.joined]
    rw [records_overflowed, List.append_nil, records_gathered houtcomes]

/-- A batch partitions its candidates, and its cache cannot be seen. -/
theorem alternatives_batch_partitions (services : AlternativeServices)
    (evaluate : Json → Except String ProposalResult) (baseRequest : JsonObject)
    (request : NormalizedProposalAlternativesRequest) (candidates : List AlternativeCandidateSeed)
    (hids : (candidates.map AlternativeCandidateSeed.candidateId).Nodup)
    (hfree : CollisionFree services baseRequest (candidates.take request.maxAlternatives)) :
    (∀ state,
      evaluateAlternativeCandidatesBatch services evaluate baseRequest request candidates =
        .ok state →
      Partitioned services evaluate baseRequest request candidates state) ∧
    ∀ exception,
      evaluateAlternativeCandidatesBatch services evaluate baseRequest request candidates =
        .error exception →
      ∃ candidate ∈ candidates.take request.maxAlternatives,
        evaluateAlternativeCandidatesBatch services evaluate baseRequest request [candidate] =
          .error exception := by
  unfold evaluateAlternativeCandidatesBatch
  rcases inv_empty.run hfree fun _ h => h with
    ⟨outcomes, final, houtcomes, hfinal, hinv, hevaluation, hlength⟩ |
      ⟨candidate, hcandidate, exception, hfailure, hfinal⟩
  · rw [hfinal]
    refine ⟨?_, fun exception h => nomatch h⟩
    rintro state ⟨⟩
    have hpartitioned := partitioned_of_run hids houtcomes hinv (by simpa using hlength)
    rw [gathered_append] at hpartitioned
    dsimp only
    rw [foldl_overflowRejection, hevaluation, empty_joined]
    exact hpartitioned
  · rw [hfinal]
    refine ⟨fun state h => (nomatch h), ?_⟩
    rintro exception ⟨⟩
    exact ⟨candidate, hcandidate, hfailure.alone (limit_pos hcandidate)⟩

end Partitions

namespace BatchSample

/-- A deposit, as it is validated. -/
def deposit (amount : String) : JsonObject :=
  [("intent_type", .str "CASH_FLOW"), ("currency", .str "USD"), ("amount", .str amount),
    ("description", .null)]

def candidateOf (candidateId label amount : String) : AlternativeCandidateSeed where
  candidateId := candidateId
  objective := .raiseCash
  strategyId := "raise_cash"
  label := label
  summary := "Raise cash."
  generatedIntents := [deposit amount]

/-- The first two have one request. -/
def candidates : List AlternativeCandidateSeed :=
  [candidateOf "alt_1" "Cash" "100.00", candidateOf "alt_2" "More cash" "100.00",
    candidateOf "alt_3" "Less cash" "50.00", candidateOf "alt_4" "Least cash" "10.00"]

def request : NormalizedProposalAlternativesRequest where
  requestedObjectives := [.raiseCash]
  constraints := {}
  maxAlternatives := 3

def baseRequest : JsonObject :=
  [("portfolio_snapshot", .obj [("portfolio_id", .str "pf_001")]), ("shelf_entries", .arr [])]

def payloadOf (amount : String) : Json :=
  (Json.obj (baseRequest ++ [("proposed_cash_flows", .arr [.obj (deposit amount)]),
    ("proposed_trades", .arr []), ("alternatives_request", .null)])).canonical

def services : AlternativeServices where
  validateRequest := .ok
  validateIntent := .ok
  validateDecisionSummary := fun _ => .ok ()
  upper := Text.upper
  str := fun _ => ""
  dict := fun _ => .error "TypeError"
  sha256 := fun payload => if payload = payloadOf "100.00" then "5f2b" else "c07a"

/-- The risk authority is unavailable for the smaller deposit. -/
def evaluate (payload : Json) : Except String ProposalResult :=
  .ok {
    status := .ready
    explanation := [("authority_resolution", .obj [("simulation_authority", .str "lotus_core"),
      ("risk_authority",
        .str (if payload = payloadOf "50.00" then "unavailable" else "lotus_risk"))])]
    proposalDecisionSummary := some [("decision_status", .str "READY_FOR_CLIENT_REVIEW")] }

theorem build_within : ∀ candidate ∈ candidates.take 3,
    buildAlternativeSimulateRequest services candidate baseRequest = .ok (payloadOf "100.00") ∨
      buildAlternativeSimulateRequest services candidate baseRequest = .ok (payloadOf "50.00") := by
  decide

theorem collisionFree_within : CollisionFree services baseRequest (candidates.take 3) := by
  have hhashes : requestHash services (payloadOf "100.00") ≠
      requestHash services (payloadOf "50.00") := by
    decide
  intro a ha b hb payload payload' hbuild hbuild' hhash
  rcases build_within a ha with h | h <;> rcases build_within b hb with h' | h' <;>
    cases hbuild.symm.trans h <;> cases hbuild'.symm.trans h'
  · rfl
  · exact absurd hhash hhashes
  · exact absurd hhash hhashes.symm
  · rfl

end BatchSample

open BatchSample in
/-- The first two share an evaluation, the third is rejected by it and the fourth is too many. -/
theorem alternatives_batch_partitions_four :
    ∃ state, evaluateAlternativeCandidatesBatch services evaluate baseRequest request candidates =
        .ok state ∧
      Partitioned services evaluate baseRequest request candidates state := by
  obtain ⟨hpartitioned, -⟩ := alternatives_batch_partitions services evaluate baseRequest request
    candidates (by decide +kernel) collisionFree_within
  exact ⟨_, rfl, hpartitioned _ rfl⟩

open BatchSample in
example : (evaluateAlternativeCandidatesBatch services evaluate baseRequest request candidates).map
    (fun state => (state.evaluation.alternatives.map ProposalAlternative.alternativeId,
      state.evaluation.rejectedCandidates.map RejectedAlternativeCandidate.reasonCode)) =
    .ok (["alt_1", "alt_2"],
      ["LOTUS_RISK_ENRICHMENT_UNAVAILABLE", "ALTERNATIVE_CANDIDATE_LIMIT_EXCEEDED"]) := by
  decide +kernel

open BatchSample in
/-- A candidate beyond the limit is an alternative in a batch of its own. -/
theorem overflow_reported_unlike_alone :
    ∃ candidate ∈ candidates, ∃ state single,
      evaluateAlternativeCandidatesBatch services evaluate baseRequest request candidates =
        .ok state ∧
      evaluateAlternativeCandidatesBatch services evaluate baseRequest request [candidate] =
        .ok single ∧
      state.evaluation.reportsOf candidate.candidateId =
        { rejectedCandidates := [overflowRejection candidate] } ∧
      single.evaluation.alternatives.map ProposalAlternative.alternativeId =
        [candidate.candidateId] ∧
      single.evaluation.rejectedCandidates = [] := by
  refine ⟨candidateOf "alt_4" "Least cash" "10.00", by decide +kernel, _, _, rfl, rfl, ?_⟩
  decide +kernel

end LotusAdvise.Alternatives

import LotusAdvise.Alternatives.Enrichment
import Mathlib.Data.List.Forall2

/-! # The outcome of a candidate

What the loop over the candidates reports for one of them does not depend on what is cached: a
cached result was classified from the evaluation of the same request.
-/

namespace LotusAdvise.Alternatives

section Reported

variable (services : AlternativeServices) (baseRequest : JsonObject)
  (candidates : List AlternativeCandidateSeed)

/-- What is reported for one candidate. -/
def AlternativesBatchEvaluation.reportsOf (evaluation : AlternativesBatchEvaluation)
    (candidateId : String) : AlternativesBatchEvaluation where
  alternatives := evaluation.alternatives.filter (·.alternativeId = candidateId)
  rejectedCandidates := evaluation.rejectedCandidates.filter (·.candidateId = candidateId)
  simulationRecords := evaluation.simulationRecords.filter (·.candidateId = candidateId)

/-- The request of the candidate can be built. -/
def built (candidate : AlternativeCandidateSeed) : Bool :=
  (buildAlternativeSimulateRequest services candidate baseRequest).toOption.isSome

/-- Requests of the candidates that differ have different hashes. -/
def CollisionFree : Prop :=
  ∀ a ∈ candidates, ∀ b ∈ candidates, ∀ payload payload',
    buildAlternativeSimulateRequest services a baseRequest = .ok payload →
    buildAlternativeSimulateRequest services b baseRequest = .ok payload' →
    requestHash services payload = requestHash services payload' → payload = payload'

end Reported

section Outcomes

variable {services : AlternativeServices} {evaluate : Json → Except String ProposalResult}
  {baseRequest : JsonObject} {candidate first : AlternativeCandidateSeed}
  {candidates : List AlternativeCandidateSeed}

/-- The reports of both, one after the other. -/
def AlternativesBatchEvaluation.joined (a b : AlternativesBatchEvaluation) :
    AlternativesBatchEvaluation where
  alternatives := a.alternatives ++ b.alternatives
  rejectedCandidates := a.rejectedCandidates ++ b.rejectedCandidates
  simulationRecords := a.simulationRecords ++ b.simulationRecords

def gathered (outcomes : List AlternativesBatchEvaluation) : AlternativesBatchEvaluation :=
  outcomes.foldr AlternativesBatchEvaluation.joined {}

open AlternativesBatchEvaluation

theorem joined_assoc (a b c : AlternativesBatchEvaluation) :
    (a.joined b).joined c = a.joined (b.joined c) := by
  simp [joined]

@[simp] theorem joined_empty (a : AlternativesBatchEvaluation) : a.joined {} = a := by
  simp [joined]

@[simp] theorem empty_joined (a : AlternativesBatchEvaluation) : joined {} a = a := by
  simp [joined]

@[simp] theorem gathered_nil : gathered [] = {} := rfl

@[simp] theorem gathered_cons (outcome : AlternativesBatchEvaluation)
    (outcomes : List AlternativesBatchEvaluation) :
    gathered (outcome :: outcomes) = outcome.joined (gathered outcomes) := rfl

theorem gathered_append (outcomes more : List AlternativesBatchEvaluation) :
    gathered (outcomes ++ more) = (gathered outcomes).joined (gathered more) := by
  induction outcomes with
  | nil => exact (empty_joined _).symm
  | cons outcome outcomes ih =>
    rw [List.cons_append, gathered_cons, gathered_cons, joined_assoc, ih]

theorem reportResult_eq (evaluation : AlternativesBatchEvaluation) (result : CandidateResult) :
    reportResult evaluation result = evaluation.joined (reportResult {} result) := by
  cases result <;> simp [reportResult, joined]

theorem appendCandidateOutcome_eq (evaluation : AlternativesBatchEvaluation) (hash : String)
    (result : CandidateResult) (record : Option AlternativeSimulationRecord) :
    appendCandidateOutcome evaluation candidate hash result record =
      evaluation.joined (appendCandidateOutcome {} candidate hash result record) := by
  unfold appendCandidateOutcome
  rw [reportResult_eq]
  cases record <;> simp [joined]

/-- How a candidate is reported when nothing has been evaluated yet. -/
inductive Outcome (services : AlternativeServices) (evaluate : Json → Except String ProposalResult)
    (baseRequest : JsonObject) (candidate : AlternativeCandidateSeed) :
    AlternativesBatchEvaluation → Prop
  | rejected (error : AlternativesSimulationError)
      (hbuild : buildAlternativeSimulateRequest services candidate baseRequest =
        .error (.simulation error)) :
      Outcome services evaluate baseRequest candidate
        { rejectedCandidates := [buildRejection candidate error] }
  | evaluated (payload : Json) (proposalResult : ProposalResult) (result : CandidateResult)
      (hbuild : buildAlternativeSimulateRequest services candidate baseRequest = .ok payload)
      (hevaluate : evaluate payload = .ok proposalResult)
      (hclassify : classifyCandidateResult services candidate (requestHash services payload)
        proposalResult = .ok result) :
      Outcome services evaluate baseRequest candidate
        (appendCandidateOutcome {} candidate (requestHash services payload) result
          (some { candidateId := candidate.candidateId
                  requestHash := requestHash services payload
                  proposalResult }))

/-- How the batch fails for a candidate when nothing has been evaluated yet. -/
inductive Failure (services : AlternativeServices) (evaluate : Json → Except String ProposalResult)
    (baseRequest : JsonObject) (candidate : AlternativeCandidateSeed) (exception : String) : Prop
  | build (hbuild : buildAlternativeSimulateRequest services candidate baseRequest =
      .error (.raised exception))
  | evaluation (payload : Json)
      (hbuild : buildAlternativeSimulateRequest services candidate baseRequest = .ok payload)
      (hevaluate : evaluate payload = .error exception)
  | classification (payload : Json) (proposalResult : ProposalResult)
      (hbuild : buildAlternativeSimulateRequest services candidate baseRequest = .ok payload)
      (hevaluate : evaluate payload = .ok proposalResult)
      (hclassify : classifyCandidateResult services candidate (requestHash services payload)
        proposalResult = .error exception)

/-- A result is classified alike for every candidate, as far as it is not rewritten. -/
theorem classify_alike {hash : String} {proposalResult : ProposalResult} {result : CandidateResult}
    (h : classifyCandidateResult services first hash proposalResult = .ok result) :
    ∃ result', classifyCandidateResult services candidate hash proposalResult = .ok result' ∧
      rewrittenResult candidate hash result' = rewrittenResult candidate hash result := by
  unfold classifyCandidateResult unavailableAuthorityRejection at h ⊢
  cases hresolution : authorityResolution services proposalResult with
  | error exception =>
    rw [hresolution] at h
    cases h
  | ok resolution =>
    rw [hresolution] at h
    dsimp only [Except.map] at h ⊢
    by_cases hsimulation : isText resolution "simulation_authority" simulationAuthority
    · by_cases hrisk : isText resolution "risk_authority" riskAuthority
      · simp only [hsimulation, hrisk, not_true_eq_false, if_false] at h ⊢
        cases hsummary : services.validateDecisionSummary
            (proposalResult.proposalDecisionSummary.getD []) with
        | error exception =>
          rw [hsummary] at h
          cases h
        | ok _ =>
          rw [hsummary] at h
          cases h
          exact ⟨_, rfl, rfl⟩
      · simp only [hsimulation, hrisk, not_true_eq_false, not_false_eq_true, if_false, if_true]
          at h ⊢
        cases h
        exact ⟨_, rfl, rfl⟩
    · simp only [hsimulation, not_false_eq_true, if_true] at h ⊢
      cases h
      exact ⟨_, rfl, rfl⟩

theorem appendCandidateOutcome_congr {evaluation : AlternativesBatchEvaluation} {hash : String}
    {result result' : CandidateResult} {proposalResult : ProposalResult} {id id' : String}
    (h : rewrittenResult candidate hash result' = rewrittenResult candidate hash result) :
    appendCandidateOutcome evaluation candidate hash result'
        (some { candidateId := id', requestHash := hash, proposalResult }) =
      appendCandidateOutcome evaluation candidate hash result
        (some { candidateId := id, requestHash := hash, proposalResult }) := by
  unfold appendCandidateOutcome
  rw [h]

/-- The reports of one candidate. -/
structure ReportsOnly (candidate : AlternativeCandidateSeed)
    (outcome : AlternativesBatchEvaluation) : Prop where
  ids : outcome.alternatives.map ProposalAlternative.alternativeId ++
      outcome.rejectedCandidates.map RejectedAlternativeCandidate.candidateId =
    [candidate.candidateId]
  records : ∀ record ∈ outcome.simulationRecords, record.candidateId = candidate.candidateId

theorem reportsOnly_appendCandidateOutcome (hash : String) (result : CandidateResult)
    (record : AlternativeSimulationRecord) :
    ReportsOnly candidate (appendCandidateOutcome {} candidate hash result (some record)) := by
  cases result <;>
    exact ⟨by simp [appendCandidateOutcome, reportResult, rewrittenResult],
      by simp [appendCandidateOutcome, reportResult, rewrittenResult]⟩

theorem reportsOnly_overflow :
    ReportsOnly candidate { rejectedCandidates := [overflowRejection candidate] } :=
  ⟨rfl, by simp⟩

variable {outcome : AlternativesBatchEvaluation} {outcomes : List AlternativesBatchEvaluation}

theorem Outcome.reportsOnly (h : Outcome services evaluate baseRequest candidate outcome) :
    ReportsOnly candidate outcome := by
  cases h with
  | rejected error hbuild => exact ⟨rfl, by simp⟩
  | evaluated payload proposalResult result hbuild hevaluate hclassify =>
    exact reportsOnly_appendCandidateOutcome _ _ _

theorem Outcome.records (h : Outcome services evaluate baseRequest candidate outcome) :
    outcome.simulationRecords.map AlternativeSimulationRecord.candidateId =
      ([candidate].filter (built services baseRequest)).map
        AlternativeCandidateSeed.candidateId := by
  cases h with
  | rejected error hbuild => simp [built, hbuild, Except.toOption]
  | evaluated payload proposalResult result hbuild hevaluate hclassify =>
    cases result <;>
      simp [built, hbuild, Except.toOption, appendCandidateOutcome, reportResult, rewrittenResult]

end Outcomes

section Reports

variable {candidate : AlternativeCandidateSeed} {candidates : List AlternativeCandidateSeed}
  {outcome : AlternativesBatchEvaluation} {outcomes : List AlternativesBatchEvaluation}
  {candidateId : String}

theorem reportsOf_joined (a b : AlternativesBatchEvaluation) :
    (a.joined b).reportsOf candidateId =
      (a.reportsOf candidateId).joined (b.reportsOf candidateId) := by
  simp [AlternativesBatchEvaluation.joined, AlternativesBatchEvaluation.reportsOf]

theorem ReportsOnly.alternative (h : ReportsOnly candidate outcome)
    {alternative : ProposalAlternative} (hmem : alternative ∈ outcome.alternatives) :
    alternative.alternativeId = candidate.candidateId := by
  have hid := List.mem_append_left
    (outcome.rejectedCandidates.map RejectedAlternativeCandidate.candidateId)
    (List.mem_map_of_mem (f := ProposalAlternative.alternativeId) hmem)
  rw [h.ids] at hid
  exact List.mem_singleton.mp hid

theorem ReportsOnly.rejected (h : ReportsOnly candidate outcome)
    {rejected : RejectedAlternativeCandidate} (hmem : rejected ∈ outcome.rejectedCandidates) :
    rejected.candidateId = candidate.candidateId := by
  have hid := List.mem_append_right
    (outcome.alternatives.map ProposalAlternative.alternativeId)
    (List.mem_map_of_mem (f := RejectedAlternativeCandidate.candidateId) hmem)
  rw [h.ids] at hid
  exact List.mem_singleton.mp hid

theorem ReportsOnly.reportsOf_self (h : ReportsOnly candidate outcome) :
    outcome.reportsOf candidate.candidateId = outcome := by
  unfold AlternativesBatchEvaluation.reportsOf
  congr 1
  · exact List.filter_eq_self.mpr fun _ hmem => decide_eq_true (h.alternative hmem)
  · exact List.filter_eq_self.mpr fun _ hmem => decide_eq_true (h.rejected hmem)
  · exact List.filter_eq_self.mpr fun _ hmem => decide_eq_true (h.records _ hmem)

theorem ReportsOnly.reportsOf_ne (h : ReportsOnly candidate outcome)
    (hne : candidate.candidateId ≠ candidateId) : outcome.reportsOf candidateId = {} := by
  unfold AlternativesBatchEvaluation.reportsOf
  congr 1
  · refine List.filter_eq_nil_iff.mpr fun _ hmem heq => hne ?_
    rw [← h.alternative hmem]
    exact of_decide_eq_true heq
  · refine List.filter_eq_nil_iff.mpr fun _ hmem heq => hne ?_
    rw [← h.rejected hmem]
    exact of_decide_eq_true heq
  · refine List.filter_eq_nil_iff.mpr fun _ hmem heq => hne ?_
    rw [← h.records _ hmem]
    exact of_decide_eq_true heq

theorem reportsOf_gathered_of_notMem (h : List.Forall₂ ReportsOnly candidates outcomes)
    (hid : candidateId ∉ candidates.map AlternativeCandidateSeed.candidateId) :
    (gathered outcomes).reportsOf candidateId = {} := by
  induction h with
  | nil => rfl
  | cons hfirst hrest ih =>
    rw [List.map_cons, List.mem_cons, not_or] at hid
    rw [gathered_cons, reportsOf_joined, hfirst.reportsOf_ne (Ne.symm hid.1), ih hid.2]
    rfl

/-- With distinct ids, what is gathered for a candidate is its own outcome. -/
theorem reportsOf_gathered {R : AlternativeCandidateSeed → AlternativesBatchEvaluation → Prop}
    (hR : List.Forall₂ R candidates outcomes)
    (hreports : ∀ candidate outcome, R candidate outcome → ReportsOnly candidate outcome)
    (hids : (candidates.map AlternativeCandidateSeed.candidateId).Nodup)
    (hmem : candidate ∈ candidates) :
    R candidate ((gathered outcomes).reportsOf candidate.candidateId) := by
  induction hR with
  | nil => cases hmem
  | @cons first firstOutcome rest restOutcomes hfirst hrest ih =>
    obtain ⟨hfresh, hrestIds⟩ := List.nodup_cons.mp hids
    rw [gathered_cons, reportsOf_joined]
    rcases List.mem_cons.mp hmem with rfl | hmem
    · rw [(hreports _ _ hfirst).reportsOf_self,
        reportsOf_gathered_of_notMem (hrest.imp hreports) hfresh, joined_empty]
      exact hfirst
    · have hne : first.candidateId ≠ candidate.candidateId := by
        intro heq
        refine hfresh ?_
        rw [heq]
        exact List.mem_map_of_mem hmem
      rw [(hreports _ _ hfirst).reportsOf_ne hne, empty_joined]
      exact ih hrestIds hmem

/-- Every candidate is gathered once. -/
theorem reported_gathered (h : List.Forall₂ ReportsOnly candidates outcomes) :
    ((gathered outcomes).alternatives.map ProposalAlternative.alternativeId ++
        (gathered outcomes).rejectedCandidates.map RejectedAlternativeCandidate.candidateId).Perm
      (candidates.map AlternativeCandidateSeed.candidateId) := by
  induction h with
  | nil => exact .nil
  | @cons first firstOutcome rest restOutcomes hfirst hrest ih =>
    have hsplit : (first :: rest).map AlternativeCandidateSeed.candidateId =
        [first.candidateId] ++ rest.map AlternativeCandidateSeed.candidateId := rfl
    rw [hsplit, ← hfirst.ids, gathered_cons]
    simp only [AlternativesBatchEvaluation.joined, List.map_append, List.append_assoc]
    refine List.Perm.append_left _ ?_
    exact (List.perm_append_comm_assoc _ _ _).trans (ih.append_left _)

end Reports

section Runs

variable {services : AlternativeServices} {evaluate : Json → Except String ProposalResult}
  {baseRequest : JsonObject} {candidate : AlternativeCandidateSeed}
  {candidates within : List AlternativeCandidateSeed} {outcome : AlternativesBatchEvaluation}
  {outcomes : List AlternativesBatchEvaluation} {state : BatchState} {exception : String}

theorem CollisionFree.mono (h : CollisionFree services baseRequest candidates)
    (hsub : ∀ candidate ∈ within, candidate ∈ candidates) :
    CollisionFree services baseRequest within :=
  fun a ha b hb => h a (hsub a ha) b (hsub b hb)

/-- What is cached is the evaluation and classification of the request of some candidate. -/
structure Inv (services : AlternativeServices) (evaluate : Json → Except String ProposalResult)
    (baseRequest : JsonObject) (candidates : List AlternativeCandidateSeed)
    (state : BatchState) : Prop where
  cached : ∀ hash result, Dict.get? state.cachedResults hash = some result →
    ∃ first ∈ candidates, ∃ payload proposalResult,
      buildAlternativeSimulateRequest services first baseRequest = .ok payload ∧
      requestHash services payload = hash ∧ evaluate payload = .ok proposalResult ∧
      classifyCandidateResult services first hash proposalResult = .ok result ∧
      Dict.get? state.cachedRecords hash =
        some { candidateId := first.candidateId, requestHash := hash, proposalResult }
  evaluated : ∀ hash ∈ state.evaluated, Dict.get? state.cachedResults hash ≠ none
  once : state.evaluated.Nodup

theorem inv_empty : Inv services evaluate baseRequest candidates {} :=
  ⟨fun _ _ h => (nomatch h), fun _ h => (nomatch h), List.nodup_nil⟩

/-- A cached result of the request of a candidate was classified from its own evaluation. -/
theorem Inv.hit (hinv : Inv services evaluate baseRequest candidates state)
    (hfree : CollisionFree services baseRequest candidates) (hmem : candidate ∈ candidates)
    {payload : Json} {result : CandidateResult}
    (hbuild : buildAlternativeSimulateRequest services candidate baseRequest = .ok payload)
    (hget : Dict.get? state.cachedResults (requestHash services payload) = some result) :
    ∃ proposalResult result' firstId, evaluate payload = .ok proposalResult ∧
      classifyCandidateResult services candidate (requestHash services payload) proposalResult =
        .ok result' ∧
      rewrittenResult candidate (requestHash services payload) result' =
        rewrittenResult candidate (requestHash services payload) result ∧
      Dict.get? state.cachedRecords (requestHash services payload) =
        some { candidateId := firstId
               requestHash := requestHash services payload
               proposalResult } := by
  obtain ⟨first, hfirst, payload', proposalResult, hbuild', hhash, hevaluate, hclassify, hrecord⟩ :=
    hinv.cached _ _ hget
  obtain rfl := hfree first hfirst candidate hmem payload' payload hbuild' hbuild hhash
  obtain ⟨result', hclassify', heq⟩ := classify_alike hclassify
  exact ⟨proposalResult, result', first.candidateId, hevaluate, hclassify', heq, hrecord⟩

/-- A candidate that fails alone fails in every state of the loop. -/
theorem Inv.fails (hinv : Inv services evaluate baseRequest candidates state)
    (hfree : CollisionFree services baseRequest candidates) (hmem : candidate ∈ candidates)
    (h : Failure services evaluate baseRequest candidate exception) :
    evaluateCandidate services evaluate baseRequest state candidate = .error exception := by
  unfold evaluateCandidate
  cases h with
  | build hbuild => rw [hbuild]
  | evaluation payload hbuild hevaluate =>
    rw [hbuild]
    dsimp only
    cases hget : Dict.get? state.cachedResults (requestHash services payload) with
    | none =>
      rw [hevaluate]
      rfl
    | some result =>
      obtain ⟨proposalResult, -, -, hok, -⟩ := hinv.hit hfree hmem hbuild hget
      rw [hevaluate] at hok
      cases hok
  | classification payload proposalResult hbuild hevaluate hclassify =>
    rw [hbuild]
    dsimp only
    cases hget : Dict.get? state.cachedResults (requestHash services payload) with
    | none =>
      rw [hevaluate]
      change (classifyCandidateResult services candidate _ proposalResult >>= _) = _
      rw [hclassify]
      rfl
    | some result =>
      obtain ⟨proposalResult', result', -, hok, hclassify', -⟩ :=
        hinv.hit hfree hmem hbuild hget
      rw [hevaluate] at hok
      cases hok
      rw [hclassify] at hclassify'
      cases hclassify'

/-- A candidate is reported in every state of the loop as it is alone. -/
theorem Inv.step (hinv : Inv services evaluate baseRequest candidates state)
    (hfree : CollisionFree services baseRequest candidates) (hmem : candidate ∈ candidates)
    (h : Outcome services evaluate baseRequest candidate outcome) :
    ∃ next, evaluateCandidate services evaluate baseRequest state candidate = .ok next ∧
      Inv services evaluate baseRequest candidates next ∧
      next.evaluation = state.evaluation.joined outcome ∧
      next.evaluated.length ≤ state.evaluated.length + 1 := by
  unfold evaluateCandidate
  cases h with
  | rejected error hbuild =>
    rw [hbuild]
    refine ⟨_, rfl, ⟨hinv.cached, hinv.evaluated, hinv.once⟩, ?_, Nat.le_succ _⟩
    exact reportResult_eq state.evaluation (.inr (buildRejection candidate error))
  | evaluated payload proposalResult result hbuild hevaluate hclassify =>
    rw [hbuild]
    dsimp only
    cases hget : Dict.get? state.cachedResults (requestHash services payload) with
    | some cached =>
      obtain ⟨proposalResult', result', firstId, hok, hclassify', heq, hrecord⟩ :=
        hinv.hit hfree hmem hbuild hget
      rw [hevaluate] at hok
      cases hok
      rw [hclassify] at hclassify'
      cases hclassify'
      refine ⟨_, rfl, ⟨hinv.cached, hinv.evaluated, hinv.once⟩, ?_, Nat.le_succ _⟩
      dsimp only
      rw [hrecord, appendCandidateOutcome_eq, appendCandidateOutcome_congr heq]
    | none =>
      rw [hevaluate]
      change ∃ next, (classifyCandidateResult services candidate _ proposalResult >>= _) = _ ∧ _
      rw [hclassify]
      refine ⟨_, rfl, ⟨?_, ?_, ?_⟩, ?_, by simp⟩
      · intro hash cached hcached
        dsimp only at hcached ⊢
        rw [Dict.get?_set] at hcached
        rw [Dict.get?_set]
        split_ifs at hcached ⊢ with heq
        · cases hcached
          subst heq
          exact ⟨candidate, hmem, payload, proposalResult, hbuild, rfl, hevaluate, hclassify, rfl⟩
        · exact hinv.cached hash cached hcached
      · intro hash hevaluated
        dsimp only at hevaluated ⊢
        rw [Dict.get?_set]
        split_ifs with heq
        · exact Option.some_ne_none _
        · rcases List.mem_append.mp hevaluated with hold | hnew
          · exact hinv.evaluated hash hold
          · exact absurd (List.mem_singleton.mp hnew).symm heq
      · refine List.nodup_append.mpr ⟨hinv.once, List.nodup_singleton _, ?_⟩
        rintro hash hold _ hnew rfl
        exact hinv.evaluated hash hold (List.mem_singleton.mp hnew ▸ hget)
      · exact appendCandidateOutcome_eq state.evaluation _ result (some _)

/-- Alone, a candidate is reported or fails. -/
theorem outcome_or_failure (services : AlternativeServices)
    (evaluate : Json → Except String ProposalResult) (baseRequest : JsonObject)
    (candidate : AlternativeCandidateSeed) :
    (∃ outcome, Outcome services evaluate baseRequest candidate outcome) ∨
      ∃ exception, Failure services evaluate baseRequest candidate exception := by
  rcases hbuild : buildAlternativeSimulateRequest services candidate baseRequest with
    (error | exception) | payload
  · exact .inl ⟨_, .rejected error hbuild⟩
  · exact .inr ⟨exception, .build hbuild⟩
  · rcases hevaluate : evaluate payload with exception | proposalResult
    · exact .inr ⟨exception, .evaluation payload hbuild hevaluate⟩
    · rcases hclassify : classifyCandidateResult services candidate (requestHash services payload)
          proposalResult with exception | result
      · exact .inr ⟨exception, .classification payload proposalResult hbuild hevaluate hclassify⟩
      · exact .inl ⟨_, .evaluated payload proposalResult result hbuild hevaluate hclassify⟩

/-- The loop reports every candidate as alone, or fails as one of them does alone. -/
theorem Inv.run (hinv : Inv services evaluate baseRequest candidates state)
    (hfree : CollisionFree services baseRequest candidates)
    (hsub : ∀ candidate ∈ within, candidate ∈ candidates) :
    (∃ outcomes final, List.Forall₂ (Outcome services evaluate baseRequest) within outcomes ∧
        within.foldlM (evaluateCandidate services evaluate baseRequest) state = .ok final ∧
        Inv services evaluate baseRequest candidates final ∧
        final.evaluation = state.evaluation.joined (gathered outcomes) ∧
        final.evaluated.length ≤ state.evaluated.length + within.length) ∨
      ∃ candidate ∈ within, ∃ exception,
        Failure services evaluate baseRequest candidate exception ∧
        within.foldlM (evaluateCandidate services evaluate baseRequest) state =
          .error exception := by
  induction within generalizing state with
  | nil => exact .inl ⟨[], state, .nil, rfl, hinv, (joined_empty _).symm, le_rfl⟩
  | cons candidate rest ih =>
    have hmem := hsub candidate List.mem_cons_self
    rw [List.foldlM_cons]
    rcases outcome_or_failure services evaluate baseRequest candidate with
      ⟨outcome, houtcome⟩ | ⟨exception, hfailure⟩
    · obtain ⟨next, hnext, hkept, hevaluation, hlength⟩ := hinv.step hfree hmem houtcome
      rw [hnext]
      rcases ih hkept fun c hc => hsub c (List.mem_cons_of_mem _ hc) with
        ⟨outcomes, final, houtcomes, hfinal, hlast, hall, htotal⟩ | ⟨c, hc, exception, hfailed⟩
      · refine .inl ⟨outcome :: outcomes, final, .cons houtcome houtcomes, hfinal, hlast, ?_, ?_⟩
        · rw [hall, hevaluation, joined_assoc, gathered_cons]
        · rw [List.length_cons]
          omega
      · exact .inr ⟨c, List.mem_cons_of_mem _ hc, exception, hfailed⟩
    · rw [hinv.fails hfree hmem hfailure]
      exact .inr ⟨candidate, List.mem_cons_self, exception, hfailure, rfl⟩

end Runs

end LotusAdvise.Alternatives

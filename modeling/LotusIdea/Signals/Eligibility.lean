import LotusIdea.Signals.Families

/-!
# When an evaluation finds a candidate

For each family the condition under which its evaluator goes on to build the
candidate: sources that are entitled, present, of the right date and current,
and values that reach the threshold of the policy.
-/

set_option autoImplicit false

namespace LotusIdea

open Guards

/-! ## Refusals -/

/-- No candidate, no signal, and at least one reason. -/
structure Refusal (result : SignalEvaluationResult) : Prop where
  outcome : result.outcome ≠ .candidateCreated
  signal : result.signal = none
  candidate : result.candidate = none
  reasons : result.reasonCodes ≠ []

theorem blocked_refuses (family : OpportunityFamily) (reason : ReasonCode)
    (unsupported : List UnsupportedEvidenceReason) :
    Refusal (blockedSignalResult family [reason] unsupported) :=
  ⟨by simp [blockedSignalResult], rfl, rfl, by simp [blockedSignalResult]⟩

theorem belowMateriality_refuses (family : OpportunityFamily) :
    Refusal (belowMateriality family) :=
  ⟨by simp [belowMateriality], rfl, rfl, by simp [belowMateriality]⟩

theorem notEligibleExpired_refuses : Refusal notEligibleExpired :=
  ⟨by simp [notEligibleExpired], rfl, rfl, by simp [notEligibleExpired]⟩

/-! ## The guards of the sources -/

theorem temporal_guarded (family : OpportunityFamily) (asOfDate : Date)
    (evaluatedAtUtc : DateTime) (sourceRefs : List SourceRef) :
    Guarded Refusal (temporalBlockedSignalResult family asOfDate evaluatedAtUtc sourceRefs)
      (TemporallySound asOfDate evaluatedAtUtc sourceRefs) := by
  constructor
  · exact temporalBlocked_eq_none.mpr
  · intro unsound
    cases found : temporalBlockedSignalResult family asOfDate evaluatedAtUtc sourceRefs with
    | none => exact absurd (temporalBlocked_eq_none.mp found) unsound
    | some result =>
        obtain ⟨reason, rfl⟩ := temporalBlocked_reason found
        exact ⟨_, rfl, blocked_refuses family reason _⟩

/-- Every source is current. -/
def AllCurrent (sourceRefs : List SourceRef) : Prop :=
  ∀ r ∈ sourceRefs, r.val.freshness = .current

theorem anyStale_iff (sourceRefs : List SourceRef) :
    ¬anyStale sourceRefs = true ↔ AllCurrent sourceRefs := by
  simp [anyStale, AllCurrent]

theorem length_available_le (refs : List (Option SourceRef)) :
    (available refs).length ≤ refs.length := List.length_filterMap_le id refs

/-- As many references are there as were asked for when none is missing. -/
theorem length_available {refs : List (Option SourceRef)} :
    refs.length - (available refs).length = 0 ↔ ∀ ref ∈ refs, ref.isSome = true := by
  induction refs with
  | nil => simp
  | cons ref rest ih =>
      have short := length_available_le rest
      cases ref with
      | none =>
          have shorter : (available (none :: rest)).length = (available rest).length := rfl
          simp only [shorter, List.length_cons, List.forall_mem_cons, Option.isSome_none,
            Bool.false_eq_true, false_and, iff_false]
          omega
      | some r =>
          have longer : (available (some r :: rest)).length = (available rest).length + 1 := rfl
          simp only [longer, List.length_cons, List.forall_mem_cons, Option.isSome_some, true_and,
            ← ih]
          omega

/-- The guards on the sources are passed. -/
structure SourcesReady (entitlementAllowed : Bool) (required : List (Option SourceRef))
    (asOfDate : Date) (evaluatedAtUtc : DateTime) (sourceRefs : List SourceRef) : Prop where
  entitled : entitlementAllowed = true
  present : ∀ ref ∈ required, ref.isSome = true
  temporal : TemporallySound asOfDate evaluatedAtUtc sourceRefs
  current : AllCurrent sourceRefs

theorem sourcesReady_iff {entitlementAllowed : Bool} {required : List (Option SourceRef)}
    {asOfDate : Date} {evaluatedAtUtc : DateTime} {sourceRefs : List SourceRef} :
    SourcesReady entitlementAllowed required asOfDate evaluatedAtUtc sourceRefs ↔
      entitlementAllowed = true ∧ (∀ ref ∈ required, ref.isSome = true) ∧
        TemporallySound asOfDate evaluatedAtUtc sourceRefs ∧ AllCurrent sourceRefs :=
  ⟨fun ready => ⟨ready.entitled, ready.present, ready.temporal, ready.current⟩,
    fun ⟨entitled, present, temporal, current⟩ => ⟨entitled, present, temporal, current⟩⟩

theorem denied_guarded {family : OpportunityFamily} {entitlementAllowed : Bool}
    {found : Option SignalEvaluationResult} {p : Prop} (rest : Guarded Refusal found p) :
    Guarded Refusal
      (if !entitlementAllowed then some (entitlementDenied family) else found)
      (entitlementAllowed = true ∧ p) :=
  (Guarded.test (blocked_refuses family _ _) fun _ => rest).of_iff (by simp)

theorem stale_guarded {family : OpportunityFamily} {sourceRefs : List SourceRef}
    {found : Option SignalEvaluationResult} {p : Prop} (rest : Guarded Refusal found p) :
    Guarded Refusal (if anyStale sourceRefs then some (staleSource family) else found)
      (AllCurrent sourceRefs ∧ p) :=
  (Guarded.test (blocked_refuses family _ _) fun _ => rest).of_iff (by rw [anyStale_iff])

/-! ## The conditions -/

namespace SignalEvaluation

/-- The references that a family cannot do without. -/
def requiredRefs : SignalEvaluation → List (Option SourceRef)
  | .highCash sourceInput _ =>
      [sourceInput.portfolioStateRef, sourceInput.holdingsRef, sourceInput.cashMovementRef,
        sourceInput.cashflowProjectionRef]
  | .concentration sourceInput _ => [sourceInput.concentrationRef]
  | .underperformance sourceInput _ => [sourceInput.performanceRef]
  | .mandateHealth sourceInput _ => [sourceInput.actionRegisterRef]
  | .highVolatility sourceInput _ => [sourceInput.riskRef]
  | .drawdownReview sourceInput _ => [sourceInput.riskRef]
  | .bondMaturity sourceInput _ => [sourceInput.holdingsRef, sourceInput.maturityFactRef]
  | .lowIncome sourceInput _ => [sourceInput.cashMovementRef, sourceInput.cashflowProjectionRef]
  | .mandateRestriction sourceInput _ => [sourceInput.restrictionRef]
  | .missingBenchmark sourceInput _ => [sourceInput.benchmarkAssignmentRef]
  | .missingRiskProfile sourceInput _ => [sourceInput.riskProfileRef]
  | .missingSuitability sourceInput _ => [sourceInput.policyRef]

/-- The dates that a maturity date that is not past asks for are in the calendar. -/
def InCalendar (asOfDate maturityDate : Date) (windowDays : Int) : Prop :=
  asOfDate.days ≤ maturityDate.days →
    DateTime.DayInRange (asOfDate.days + windowDays) ∧ DateTime.DayInRange (maturityDate.days + 1)

/-- The values that are there lie in the range of their kind. -/
def ValuesValid : SignalEvaluation → Prop
  | .highCash sourceInput _ =>
      ∀ weight ∈ sourceInput.sourceReportedCashWeight, 0 ≤ weight.value ∧ weight.value ≤ 1
  | .concentration sourceInput _ =>
      (∀ weight ∈ sourceInput.topPositionWeightCurrent, 0 ≤ weight.value ∧ weight.value ≤ 1) ∧
        ∀ weight ∈ sourceInput.topIssuerWeightCurrent, 0 ≤ weight.value ∧ weight.value ≤ 1
  | .underperformance sourceInput _ =>
      ∀ activeReturn ∈ sourceInput.sourceReportedActiveReturn,
        -1 ≤ activeReturn.value ∧ activeReturn.value ≤ 1
  | .mandateHealth sourceInput _ =>
      ∀ workflowCount ∈ sourceInput.workflowDecisionCount,
        ∀ lineageCount ∈ sourceInput.lineageEdgeCount, 0 ≤ workflowCount ∧ 0 ≤ lineageCount
  | .highVolatility sourceInput _ =>
      ∀ volatility ∈ sourceInput.sourceReportedVolatility, 0 ≤ volatility.value
  | .drawdownReview sourceInput _ =>
      ∀ maxDrawdown ∈ sourceInput.sourceReportedMaxDrawdown, maxDrawdown.value ≤ 0
  | .bondMaturity sourceInput policy =>
      (∀ count ∈ sourceInput.sourceReportedMaturingPositionCount, 0 ≤ count) ∧
        ∀ maturityDate ∈ sourceInput.sourceReportedNextMaturityDate,
          InCalendar sourceInput.asOfDate maturityDate policy.val.maturityWindowDays
  | .lowIncome sourceInput _ => ∀ count ∈ sourceInput.cashMovementCount, 0 ≤ count
  | .missingSuitability sourceInput _ =>
      (∀ count ∈ sourceInput.openRequirementCount, 0 ≤ count) ∧
        (∀ count ∈ sourceInput.blockedRequirementCount, 0 ≤ count) ∧
          ∀ count ∈ sourceInput.signOffBlockerCount, 0 ≤ count
  | .mandateRestriction .. => True
  | .missingBenchmark .. => True
  | .missingRiskProfile .. => True

section Material
variable [CaseMapping]

/-- A status that reads as `expected` in lower case. -/
def ReadsAs (status : Option String) (expected : String) : Prop :=
  ∃ text ∈ status, CaseMapping.lower text = expected

/-- The observation is what the family and its policy look for. -/
def Material : SignalEvaluation → Prop
  | .highCash sourceInput policy =>
      ∃ weight ∈ sourceInput.sourceReportedCashWeight,
        policy.val.cashWeightThreshold.value ≤ weight.value
  | .concentration sourceInput policy =>
      ReadsAs sourceInput.issuerCoverageStatus "complete" ∧
        ((∃ weight ∈ sourceInput.topPositionWeightCurrent,
            policy.val.topPositionWeightThreshold.value ≤ weight.value) ∨
          ∃ weight ∈ sourceInput.topIssuerWeightCurrent,
            policy.val.topIssuerWeightThreshold.value ≤ weight.value)
  | .underperformance sourceInput policy =>
      sourceInput.benchmarkContextAvailable = true ∧
        ∃ activeReturn ∈ sourceInput.sourceReportedActiveReturn,
          activeReturn.value ≤ policy.val.activeReturnThreshold.value
  | .mandateHealth sourceInput policy =>
      sourceInput.portfolioScopeConfirmed = true ∧
        ReadsAs sourceInput.manageSupportabilityState "ready" ∧
          ∃ workflowCount ∈ sourceInput.workflowDecisionCount,
            ∃ lineageCount ∈ sourceInput.lineageEdgeCount,
              policy.val.minimumWorkflowDecisionCount ≤ workflowCount ∧
                policy.val.minimumLineageEdgeCount ≤ lineageCount
  | .highVolatility sourceInput policy =>
      ReadsAs sourceInput.riskSupportabilityState "ready" ∧
        ∃ volatility ∈ sourceInput.sourceReportedVolatility,
          policy.val.volatilityThreshold.value ≤ volatility.value
  | .drawdownReview sourceInput policy =>
      ReadsAs sourceInput.riskSupportabilityState "ready" ∧
        ∃ maxDrawdown ∈ sourceInput.sourceReportedMaxDrawdown,
          maxDrawdown.value ≤ policy.val.maxDrawdownThreshold.value
  | .bondMaturity sourceInput policy =>
      (∃ count ∈ sourceInput.sourceReportedMaturingPositionCount, count ≠ 0) ∧
        ∃ maturityDate ∈ sourceInput.sourceReportedNextMaturityDate,
          sourceInput.asOfDate.days ≤ maturityDate.days ∧
            maturityDate.days ≤ sourceInput.asOfDate.days + policy.val.maturityWindowDays ∧
              sourceInput.evaluatedAtUtc < .utc ((maturityDate.days + 1) * 86400000000)
  | .lowIncome sourceInput policy =>
      sourceInput.cashMovementCount.isSome = true ∧
        ∃ cashflow ∈ sourceInput.sourceReportedMinProjectedCumulativeCashflow,
          cashflow.value ≤ policy.val.projectedCumulativeCashflowThreshold.value
  | .mandateRestriction sourceInput _ =>
      ∃ status ∈ sourceInput.restrictionStatus, ∃ changed ∈ sourceInput.changedSinceLastReview,
        ∃ blocked ∈ sourceInput.actionabilityBlocked,
          CaseMapping.upper status ∈ actionableRestrictionStatuses ∨ changed = true ∨
            blocked = true
  | .missingBenchmark sourceInput _ =>
      let status := CaseMapping.lower (strippedStatus sourceInput.assignmentStatus)
      sourceInput.benchmarkIdentityResolved = false ∨
        sourceInput.assignmentEffectiveForAsOfDate = false ∨
          (status ≠ "ready" ∧ (status = "active" → sourceInput.assignmentVersionPresent = false))
  | .missingRiskProfile sourceInput _ =>
      ∃ status ∈ sourceInput.riskProfileStatus,
        ∃ effective ∈ sourceInput.riskProfileEffectiveForAsOfDate,
          ∃ reviewDue ∈ sourceInput.riskProfileReviewDue,
            CaseMapping.upper status ∈ missingRiskProfileStatuses ∨ effective = false ∨
              reviewDue = true
  | .missingSuitability sourceInput policy =>
      (∃ publication ∈ sourceInput.clientReadyPublication,
          CaseMapping.upper publication = "BLOCKED") ∧
        ∃ evaluationStatus ∈ sourceInput.evaluationStatus,
          ∃ signOffStatus ∈ sourceInput.signOffStatus,
            ∃ openCount ∈ sourceInput.openRequirementCount,
              ∃ blockedCount ∈ sourceInput.blockedRequirementCount,
                ∃ signOffBlockers ∈ sourceInput.signOffBlockerCount,
                  CaseMapping.upper evaluationStatus ∈ ["PENDING_REVIEW", "BLOCKED"] ∨
                    CaseMapping.upper signOffStatus ∈ ["PENDING_REVIEW", "BLOCKED"] ∨
                      policy.val.minimumOpenRequirementCount ≤ openCount ∨
                        0 < blockedCount ∨ 0 < signOffBlockers

/-- A candidate is due: an aware time, sources that are ready, and values that
are in range and material. -/
structure Eligible (e : SignalEvaluation) : Prop where
  aware : e.evaluatedAtUtc.isNaive = false
  ready : SourcesReady e.entitlementAllowed e.requiredRefs e.asOfDate e.evaluatedAtUtc
    e.sourceRefs
  valid : e.ValuesValid
  material : e.Material

end Material

end SignalEvaluation

end LotusIdea

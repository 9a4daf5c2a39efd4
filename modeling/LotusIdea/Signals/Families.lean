import LotusIdea.Signals.Cashflow
import LotusIdea.Signals.Gaps
import LotusIdea.Signals.Risk

/-!
# All evaluators

One evaluation of any family, and what an evaluation that is not entitled
answers: the families that look at their sources first tell a denied caller
whether a source is of another date or later than the evaluation.
-/

set_option autoImplicit false

namespace LotusIdea

open Guards

/-- The input of an evaluator together with its policy. -/
inductive SignalEvaluation where
  | highCash (sourceInput : HighCashSignalInput) (policy : HighCashSignalPolicy)
  | concentration (sourceInput : ConcentrationRiskSignalInput)
      (policy : ConcentrationRiskSignalPolicy)
  | underperformance (sourceInput : UnderperformanceSignalInput)
      (policy : UnderperformanceSignalPolicy)
  | mandateHealth (sourceInput : MandateHealthSignalInput) (policy : MandateHealthSignalPolicy)
  | highVolatility (sourceInput : HighVolatilitySignalInput)
      (policy : HighVolatilitySignalPolicy)
  | drawdownReview (sourceInput : DrawdownReviewSignalInput)
      (policy : DrawdownReviewSignalPolicy)
  | bondMaturity (sourceInput : BondMaturitySignalInput) (policy : BondMaturitySignalPolicy)
  | lowIncome (sourceInput : LowIncomeSignalInput) (policy : LowIncomeSignalPolicy)
  | mandateRestriction (sourceInput : MandateRestrictionSignalInput)
      (policy : MandateRestrictionSignalPolicy)
  | missingBenchmark (sourceInput : MissingBenchmarkSignalInput)
      (policy : MissingBenchmarkSignalPolicy)
  | missingRiskProfile (sourceInput : MissingRiskProfileSignalInput)
      (policy : MissingRiskProfileSignalPolicy)
  | missingSuitability (sourceInput : MissingSuitabilityContextSignalInput)
      (policy : MissingSuitabilityContextSignalPolicy)

namespace SignalEvaluation

def evaluate [Sha256] [CaseMapping] : SignalEvaluation → Evaluation
  | .highCash sourceInput policy => evaluateHighCashSignal sourceInput policy
  | .concentration sourceInput policy => evaluateConcentrationRiskSignal sourceInput policy
  | .underperformance sourceInput policy => evaluateUnderperformanceSignal sourceInput policy
  | .mandateHealth sourceInput policy => evaluateMandateHealthSignal sourceInput policy
  | .highVolatility sourceInput policy => evaluateHighVolatilitySignal sourceInput policy
  | .drawdownReview sourceInput policy => evaluateDrawdownReviewSignal sourceInput policy
  | .bondMaturity sourceInput policy => evaluateBondMaturitySignal sourceInput policy
  | .lowIncome sourceInput policy => evaluateLowIncomeSignal sourceInput policy
  | .mandateRestriction sourceInput policy => evaluateMandateRestrictionSignal sourceInput policy
  | .missingBenchmark sourceInput policy => evaluateMissingBenchmarkSignal sourceInput policy
  | .missingRiskProfile sourceInput policy => evaluateMissingRiskProfileSignal sourceInput policy
  | .missingSuitability sourceInput policy =>
      evaluateMissingSuitabilityContextSignal sourceInput policy

def family : SignalEvaluation → OpportunityFamily
  | .highCash .. => .highCash
  | .concentration .. => .concentration
  | .underperformance .. => .underperformance
  | .mandateHealth .. => .allocationDrift
  | .highVolatility .. => .highVolatility
  | .drawdownReview .. => .highVolatility
  | .bondMaturity .. => .bondMaturity
  | .lowIncome .. => .lowIncome
  | .mandateRestriction .. => .mandateRestriction
  | .missingBenchmark .. => .missingBenchmark
  | .missingRiskProfile .. => .missingRiskProfile
  | .missingSuitability .. => .missingSuitabilityContext

def entitlementAllowed : SignalEvaluation → Bool
  | .highCash sourceInput _ => sourceInput.entitlementAllowed
  | .concentration sourceInput _ => sourceInput.entitlementAllowed
  | .underperformance sourceInput _ => sourceInput.entitlementAllowed
  | .mandateHealth sourceInput _ => sourceInput.entitlementAllowed
  | .highVolatility sourceInput _ => sourceInput.entitlementAllowed
  | .drawdownReview sourceInput _ => sourceInput.entitlementAllowed
  | .bondMaturity sourceInput _ => sourceInput.entitlementAllowed
  | .lowIncome sourceInput _ => sourceInput.entitlementAllowed
  | .mandateRestriction sourceInput _ => sourceInput.entitlementAllowed
  | .missingBenchmark sourceInput _ => sourceInput.entitlementAllowed
  | .missingRiskProfile sourceInput _ => sourceInput.entitlementAllowed
  | .missingSuitability sourceInput _ => sourceInput.entitlementAllowed

def evaluatedAtUtc : SignalEvaluation → DateTime
  | .highCash sourceInput _ => sourceInput.evaluatedAtUtc
  | .concentration sourceInput _ => sourceInput.evaluatedAtUtc
  | .underperformance sourceInput _ => sourceInput.evaluatedAtUtc
  | .mandateHealth sourceInput _ => sourceInput.evaluatedAtUtc
  | .highVolatility sourceInput _ => sourceInput.evaluatedAtUtc
  | .drawdownReview sourceInput _ => sourceInput.evaluatedAtUtc
  | .bondMaturity sourceInput _ => sourceInput.evaluatedAtUtc
  | .lowIncome sourceInput _ => sourceInput.evaluatedAtUtc
  | .mandateRestriction sourceInput _ => sourceInput.evaluatedAtUtc
  | .missingBenchmark sourceInput _ => sourceInput.evaluatedAtUtc
  | .missingRiskProfile sourceInput _ => sourceInput.evaluatedAtUtc
  | .missingSuitability sourceInput _ => sourceInput.evaluatedAtUtc

def asOfDate : SignalEvaluation → Date
  | .highCash sourceInput _ => sourceInput.asOfDate
  | .concentration sourceInput _ => sourceInput.asOfDate
  | .underperformance sourceInput _ => sourceInput.asOfDate
  | .mandateHealth sourceInput _ => sourceInput.asOfDate
  | .highVolatility sourceInput _ => sourceInput.asOfDate
  | .drawdownReview sourceInput _ => sourceInput.asOfDate
  | .bondMaturity sourceInput _ => sourceInput.asOfDate
  | .lowIncome sourceInput _ => sourceInput.asOfDate
  | .mandateRestriction sourceInput _ => sourceInput.asOfDate
  | .missingBenchmark sourceInput _ => sourceInput.asOfDate
  | .missingRiskProfile sourceInput _ => sourceInput.asOfDate
  | .missingSuitability sourceInput _ => sourceInput.asOfDate

def accessScope : SignalEvaluation → Option ReviewAccessScope
  | .highCash sourceInput _ => sourceInput.accessScope
  | .concentration sourceInput _ => sourceInput.accessScope
  | .underperformance sourceInput _ => sourceInput.accessScope
  | .mandateHealth sourceInput _ => sourceInput.accessScope
  | .highVolatility sourceInput _ => sourceInput.accessScope
  | .drawdownReview sourceInput _ => sourceInput.accessScope
  | .bondMaturity sourceInput _ => sourceInput.accessScope
  | .lowIncome sourceInput _ => sourceInput.accessScope
  | .mandateRestriction sourceInput _ => sourceInput.accessScope
  | .missingBenchmark sourceInput _ => sourceInput.accessScope
  | .missingRiskProfile sourceInput _ => sourceInput.accessScope
  | .missingSuitability sourceInput _ => sourceInput.accessScope

/-- The references that an input carries, required or not. -/
def sourceRefs : SignalEvaluation → List SourceRef
  | .highCash sourceInput _ => availableSourceRefs sourceInput
  | .concentration sourceInput _ => available [sourceInput.concentrationRef]
  | .underperformance sourceInput _ => available [sourceInput.performanceRef]
  | .mandateHealth sourceInput _ => mandateHealthSourceRefs sourceInput
  | .highVolatility sourceInput _ => available [sourceInput.riskRef]
  | .drawdownReview sourceInput _ => available [sourceInput.riskRef]
  | .bondMaturity sourceInput _ => availableBondMaturitySourceRefs sourceInput
  | .lowIncome sourceInput _ => availableLowIncomeSourceRefs sourceInput
  | .mandateRestriction sourceInput _ => available [sourceInput.restrictionRef]
  | .missingBenchmark sourceInput _ => available [sourceInput.benchmarkAssignmentRef]
  | .missingRiskProfile sourceInput _ => available [sourceInput.riskProfileRef]
  | .missingSuitability sourceInput _ => available [sourceInput.policyRef]

end SignalEvaluation

/-! ## Guards, from outside -/

/-- Every source is of the requested date and not from after the evaluation. -/
def TemporallySound (asOfDate : Date) (evaluatedAtUtc : DateTime) (sourceRefs : List SourceRef) :
    Prop :=
  ∀ r ∈ sourceRefs, r.val.asOfDate = asOfDate ∧ r.val.generatedAtUtc ≤ evaluatedAtUtc

theorem sourceTemporalViolation_eq_none {asOfDate : Date} {evaluatedAtUtc : DateTime}
    {sourceRefs : List SourceRef} :
    sourceTemporalViolation asOfDate evaluatedAtUtc sourceRefs = none ↔
      TemporallySound asOfDate evaluatedAtUtc sourceRefs := by
  rw [sourceTemporalViolation, List.findSome?_eq_none_iff]
  apply forall₂_congr
  intro r _
  by_cases dated : r.val.asOfDate = asOfDate
  · simp [dated, DateTime.lt_def, DateTime.le_def]
  · simp [dated]

theorem temporalBlocked_eq_none {family : OpportunityFamily} {asOfDate : Date}
    {evaluatedAtUtc : DateTime} {sourceRefs : List SourceRef} :
    temporalBlockedSignalResult family asOfDate evaluatedAtUtc sourceRefs = none ↔
      TemporallySound asOfDate evaluatedAtUtc sourceRefs := by
  rw [temporalBlockedSignalResult, Option.map_eq_none_iff, sourceTemporalViolation_eq_none]

/-- A violation names a temporal mismatch and nothing else. -/
theorem sourceTemporalViolation_reason {asOfDate : Date} {evaluatedAtUtc : DateTime}
    {sourceRefs : List SourceRef} {reason : ReasonCode} {unsupported : UnsupportedEvidenceReason}
    (found : sourceTemporalViolation asOfDate evaluatedAtUtc sourceRefs =
      some (reason, unsupported)) : unsupported = .sourceTemporalMismatch := by
  obtain ⟨r, -, violated⟩ := List.exists_of_findSome?_eq_some found
  split at violated
  · cases violated
    rfl
  · split at violated
    · cases violated
      rfl
    · cases violated

theorem temporalBlocked_reason {family : OpportunityFamily} {asOfDate : Date}
    {evaluatedAtUtc : DateTime} {sourceRefs : List SourceRef} {result : SignalEvaluationResult}
    (found : temporalBlockedSignalResult family asOfDate evaluatedAtUtc sourceRefs =
      some result) : ∃ reason, result = blockedSignalResult family [reason]
        [.sourceTemporalMismatch] := by
  obtain ⟨⟨reason, unsupported⟩, violation, rfl⟩ := Option.map_eq_some_iff.mp found
  rw [sourceTemporalViolation_reason violation]
  exact ⟨reason, rfl⟩

/-- An evaluation at a naive time raises, and goes on at an aware one. -/
theorem evaluation_returns {evaluatedAtUtc : DateTime} {next : Evaluation}
    {result : SignalEvaluationResult} :
    (do validateEvaluationTime evaluatedAtUtc; next : Evaluation) = .ok result ↔
      evaluatedAtUtc.isNaive = false ∧ next = .ok result := by
  rw [Except.seq_returns]
  constructor
  · rintro ⟨_, aware, run⟩
    have passed := validate_eq_ok.mp aware
    simp only [requireAware, firstFailure_cons, firstFailure_nil, and_true] at passed
    exact ⟨passed, run⟩
  · rintro ⟨aware, run⟩
    refine ⟨(), validate_eq_ok.mpr ?_, run⟩
    simpa [requireAware] using aware

/-! ## Denied evaluations -/

namespace SignalEvaluation

/-- The families whose evaluator asks for the entitlement before it looks at a source. -/
def checksEntitlementFirst : SignalEvaluation → Bool
  | .bondMaturity .. => false
  | .lowIncome .. => false
  | .mandateRestriction .. => false
  | .missingRiskProfile .. => false
  | .missingSuitability .. => false
  | _ => true

/-- A denied caller is told nothing about the sources. -/
def Unrevealing (e : SignalEvaluation) : Prop :=
  e.evaluatedAtUtc.isNaive = false ∧
    (e.checksEntitlementFirst = false →
      TemporallySound e.asOfDate e.evaluatedAtUtc e.sourceRefs)

/-- A guard on the sources in front of the entitlement. -/
theorem settle_temporal_denied {family : OpportunityFamily} {asOfDate : Date}
    {evaluatedAtUtc : DateTime} {sourceRefs : List SourceRef} {next : Evaluation}
    (denied : next = .ok (entitlementDenied family)) :
    settle (temporalBlockedSignalResult family asOfDate evaluatedAtUtc sourceRefs) next =
        .ok (entitlementDenied family) ↔
      TemporallySound asOfDate evaluatedAtUtc sourceRefs := by
  have passes : temporalBlockedSignalResult family asOfDate evaluatedAtUtc sourceRefs = none ↔
      TemporallySound asOfDate evaluatedAtUtc sourceRefs := temporalBlocked_eq_none
  rw [← passes]
  cases found : temporalBlockedSignalResult family asOfDate evaluatedAtUtc sourceRefs with
  | none => simp [denied]
  | some result =>
      obtain ⟨reason, rfl⟩ := temporalBlocked_reason found
      simp [entitlementDenied, blockedSignalResult]

section Denied

variable [Sha256] [CaseMapping]

/-- A denied evaluation answers with the denial exactly when it reveals nothing. -/
theorem denied_evaluation {e : SignalEvaluation} (denied : e.entitlementAllowed = false) :
    e.evaluate = .ok (entitlementDenied e.family) ↔ e.Unrevealing := by
  cases e with
  | highCash sourceInput policy =>
      have refused : sourceInput.entitlementAllowed = false := denied
      rw [evaluate, evaluateHighCashSignal, evaluation_returns]
      simp [highCashSourceBlock, refused, Unrevealing, checksEntitlementFirst, family,
        evaluatedAtUtc]
  | concentration sourceInput policy =>
      have refused : sourceInput.entitlementAllowed = false := denied
      rw [evaluate, evaluateConcentrationRiskSignal, evaluation_returns]
      simp [concentrationRiskPreSourceBlock, refused, Unrevealing, checksEntitlementFirst, family,
        evaluatedAtUtc]
  | underperformance sourceInput policy =>
      have refused : sourceInput.entitlementAllowed = false := denied
      rw [evaluate, evaluateUnderperformanceSignal, evaluation_returns]
      simp [underperformancePreSourceBlock, refused, Unrevealing, checksEntitlementFirst, family,
        evaluatedAtUtc]
  | mandateHealth sourceInput policy =>
      have refused : sourceInput.entitlementAllowed = false := denied
      rw [evaluate, evaluateMandateHealthSignal, evaluation_returns]
      simp [mandateHealthPreSourceBlock, refused, Unrevealing, checksEntitlementFirst, family,
        evaluatedAtUtc]
  | highVolatility sourceInput policy =>
      have refused : sourceInput.entitlementAllowed = false := denied
      rw [evaluate, evaluateHighVolatilitySignal, evaluation_returns]
      simp [highVolatilityBlockingPosture, refused, Unrevealing, checksEntitlementFirst, family,
        evaluatedAtUtc]
  | drawdownReview sourceInput policy =>
      have refused : sourceInput.entitlementAllowed = false := denied
      rw [evaluate, evaluateDrawdownReviewSignal, evaluation_returns]
      simp only [drawdownReviewSourceRefsOrBlock, refused, Bool.not_false, if_true, Unrevealing,
        checksEntitlementFirst, family, evaluatedAtUtc]
      simp [pure, Except.pure]
  | bondMaturity sourceInput policy =>
      have refused : sourceInput.entitlementAllowed = false := denied
      rw [evaluate, evaluateBondMaturitySignal, evaluation_returns]
      simp only [sourceRefSupportabilityResult, settle_or, family]
      rw [settle_temporal_denied (by simp [refused])]
      simp [Unrevealing, checksEntitlementFirst, evaluatedAtUtc, asOfDate, sourceRefs]
  | lowIncome sourceInput policy =>
      have refused : sourceInput.entitlementAllowed = false := denied
      rw [evaluate, evaluateLowIncomeSignal, evaluation_returns]
      simp only [lowIncomeBlockingPosture, settle_or, family]
      rw [settle_temporal_denied (by simp [refused])]
      simp [Unrevealing, checksEntitlementFirst, evaluatedAtUtc, asOfDate, sourceRefs]
  | mandateRestriction sourceInput policy =>
      have refused : sourceInput.entitlementAllowed = false := denied
      rw [evaluate, evaluateMandateRestrictionSignal, evaluation_returns, temporalGuard, family,
        settle_temporal_denied (by simp [mandateRestrictionBlockingResult, sourceGuard, refused])]
      simp [Unrevealing, checksEntitlementFirst, evaluatedAtUtc, asOfDate, sourceRefs]
  | missingBenchmark sourceInput policy =>
      have refused : sourceInput.entitlementAllowed = false := denied
      rw [evaluate, evaluateMissingBenchmarkSignal, evaluation_returns]
      simp [missingBenchmarkNonCandidateResult, refused, Unrevealing, checksEntitlementFirst,
        family, evaluatedAtUtc]
  | missingRiskProfile sourceInput policy =>
      have refused : sourceInput.entitlementAllowed = false := denied
      rw [evaluate, evaluateMissingRiskProfileSignal, evaluation_returns, temporalGuard, family,
        settle_temporal_denied (by simp [missingRiskProfileBlockingResult, sourceGuard, refused])]
      simp [Unrevealing, checksEntitlementFirst, evaluatedAtUtc, asOfDate, sourceRefs]
  | missingSuitability sourceInput policy =>
      have refused : sourceInput.entitlementAllowed = false := denied
      rw [evaluate, evaluateMissingSuitabilityContextSignal, evaluation_returns, temporalGuard,
        family,
        settle_temporal_denied (by simp [missingSuitabilityBlockingResult, sourceGuard, refused])]
      simp [Unrevealing, checksEntitlementFirst, evaluatedAtUtc, asOfDate, sourceRefs]

/-- Two denied evaluations of one family have the denial as their common answer
exactly when neither reveals anything of its sources. -/
theorem denied_reveals_nothing {first second : SignalEvaluation}
    (sameFamily : first.family = second.family) (denied : first.entitlementAllowed = false)
    (deniedToo : second.entitlementAllowed = false) :
    (first.evaluate = second.evaluate ∧
        first.evaluate = .ok
          { outcome := .blocked
            family := first.family
            reasonCodes := [.reviewRequired]
            unsupportedReasons := [.entitlementDenied]
            signal := none
            candidate := none }) ↔
      first.Unrevealing ∧ second.Unrevealing := by
  rw [← denied_evaluation denied, ← denied_evaluation deniedToo, ← sameFamily]
  constructor
  · rintro ⟨same, answered⟩
    exact ⟨answered, same.symm.trans answered⟩
  · rintro ⟨answered, answeredToo⟩
    exact ⟨answered.trans answeredToo.symm, answered⟩

end Denied

/-! A caller without entitlement, for a portfolio with and without a source of an
earlier date. -/

/-- Case of ASCII letters. -/
@[reducible] def asciiCases : CaseMapping where
  upper text := String.ofList (text.toList.map Char.toUpper)
  lower text := String.ofList (text.toList.map Char.toLower)

def sampleSignalDigest : String :=
  "sha256:0000000000000000000000000000000000000000000000000000000000000000"

def sampleSignalRef (day : Int) : SourceRef where
  val :=
    { productId := "advise:RiskProfile:v1"
      sourceSystem := .lotusAdvise
      productVersion := "v1"
      route := "/advise/risk-profile"
      asOfDate := ⟨day⟩
      generatedAtUtc := .utc 1767225600000000
      contentHash := sampleSignalDigest
      dataQualityStatus := "complete"
      freshness := .current }
  valid := firstFailure_eq_none.mpr (by simp only [SourceRefFields.checks]; decide)

def sampleVersionedPolicy : Checked VersionedSignalPolicyFields.checks where
  val := { policyVersion := "policy-v1" }
  valid := by decide

def sampleDenied (ref : Option SourceRef) : SignalEvaluation :=
  .missingRiskProfile
    { asOfDate := ⟨20454⟩
      riskProfileRef := ref
      riskProfileStatus := none
      riskProfileEffectiveForAsOfDate := none
      riskProfileReviewDue := none
      evaluatedAtUtc := .utc 1767312000000000
      entitlementAllowed := false }
    sampleVersionedPolicy

theorem sampleDenied_unrevealing (ref : Option SourceRef) :
    (sampleDenied ref).Unrevealing ↔
      TemporallySound ⟨20454⟩ (.utc 1767312000000000) (available [ref]) := by
  have aware : (DateTime.utc 1767312000000000).isNaive = false := rfl
  simp [Unrevealing, sampleDenied, checksEntitlementFirst, evaluatedAtUtc, asOfDate, sourceRefs,
    aware]

theorem denied_reveals_nothing_sample : ∃ (_ : Sha256) (_ : CaseMapping),
    (sampleDenied none).evaluate = (sampleDenied (some (sampleSignalRef 20454))).evaluate := by
  let : Sha256 := Sha256.zeros
  let : CaseMapping := asciiCases
  have absent : (sampleDenied none).Unrevealing := by
    rw [sampleDenied_unrevealing]
    intro r member
    simp [available] at member
  have present : (sampleDenied (some (sampleSignalRef 20454))).Unrevealing := by
    rw [sampleDenied_unrevealing]
    intro r member
    obtain rfl : r = sampleSignalRef 20454 := by simpa [available] using member
    exact ⟨rfl, by decide⟩
  have sameFamily : (sampleDenied none).family =
      (sampleDenied (some (sampleSignalRef 20454))).family := rfl
  exact ⟨inferInstance, inferInstance,
    ((denied_reveals_nothing sameFamily rfl rfl).mpr ⟨absent, present⟩).1⟩

/-- A source of another date is seen through the denial. -/
theorem denied_evaluations_differ : ∃ (_ : Sha256) (_ : CaseMapping)
    (first second : SignalEvaluation), first.family = second.family ∧
      first.entitlementAllowed = false ∧ second.entitlementAllowed = false ∧
      first.evaluate ≠ second.evaluate := by
  let : Sha256 := Sha256.zeros
  let : CaseMapping := asciiCases
  refine ⟨inferInstance, inferInstance, sampleDenied none,
    sampleDenied (some (sampleSignalRef 20453)), rfl, rfl, rfl, ?_⟩
  have absent : (sampleDenied none).evaluate = .ok (entitlementDenied .missingRiskProfile) := by
    refine (denied_evaluation rfl).mpr ((sampleDenied_unrevealing none).mpr ?_)
    intro r member
    simp [available] at member
  rw [absent]
  intro same
  have revealed := (sampleDenied_unrevealing _).mp ((denied_evaluation rfl).mp same.symm)
  have dated := (revealed (sampleSignalRef 20453) (by simp [available])).1
  exact absurd dated (by decide)

end SignalEvaluation

end LotusIdea

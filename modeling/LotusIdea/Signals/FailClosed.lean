import LotusIdea.Signals.Eligibility

/-!
# Evaluations fail closed

An evaluation returns a candidate exactly where its family's condition holds,
and the candidate is made of the sources, the scope and the time of the
evaluation.  Everything else is refused with a reason, and only values out of
their range make a refusal an error.
-/

set_option autoImplicit false

namespace LotusIdea

open Guards

/-! ## What a detection becomes -/

/-- The result carries the signal and the candidate that the evaluation stands for. -/
structure SignalEvaluation.Detected (e : SignalEvaluation) (result : SignalEvaluationResult)
    (signal : OpportunitySignal) (candidate : IdeaCandidate) : Prop where
  outcome : result.outcome = .candidateCreated
  answered : result.signal = some signal ∧ result.candidate = some candidate
  family : result.family = e.family ∧ signal.val.family = e.family ∧
    candidate.val.family = e.family
  sources : signal.val.sourceRefs = e.sourceRefs ∧
    candidate.val.evidencePacket.val.sourceRefs = e.sourceRefs
  evidence : candidate.val.evidencePacket.val.supportability = .ready ∧
    candidate.val.evidencePacket.val.unsupportedReasons = []
  generated : candidate.val.lifecycleStatus = .generated
  signals : candidate.val.sourceSignalIds = [signal.val.signalId]
  scope : candidate.val.accessScope = e.accessScope
  times : signal.val.detectedAtUtc = e.evaluatedAtUtc ∧
    candidate.val.createdAtUtc = e.evaluatedAtUtc ∧
    candidate.val.updatedAtUtc = e.evaluatedAtUtc ∧
    candidate.val.evidencePacket.val.createdAtUtc = e.evaluatedAtUtc
  applicable : ∀ expiry ∈ candidate.val.evidencePacket.val.applicabilityExpiresAtUtc,
    e.evaluatedAtUtc < expiry
  scored : ∃ score ∈ candidate.val.score, 0 ≤ score.val.score ∧ score.val.score ≤ 100
  reasons : result.reasonCodes = candidate.val.evidencePacket.val.reasonCodes ∧
    result.reasonCodes ≠ []

/-- The detection is the evaluation's. -/
structure Detection.Of (d : Detection) (e : SignalEvaluation) : Prop where
  family : d.family = e.family
  sourceRefs : d.sourceRefs = e.sourceRefs
  accessScope : d.accessScope = e.accessScope
  evaluatedAtUtc : d.evaluatedAtUtc = e.evaluatedAtUtc

/-- A signal does not end before it begins. -/
theorem Detection.signal_applicable [Sha256] {d : Detection} {identity : OpportunityIdentity}
    {signal : OpportunitySignal} (made : d.signal identity = .ok signal) :
    ∀ expiry ∈ d.applicabilityExpiresAtUtc, d.evaluatedAtUtc < expiry := by
  intro expiry present
  have fields := Checked.make_eq_ok.mp made
  have valid := signal.valid
  rw [fields, OpportunitySignalFields.checks, Option.mem_def.mp present] at valid
  simp only [Option.elim_some, firstFailure_append, firstFailure_cons, firstFailure_nil,
    decide_eq_false_iff_not] at valid
  have later := valid.1.2.2.1
  rw [DateTime.le_def] at later
  rw [DateTime.lt_def]
  omega

theorem IdeaEvidencePacket.reasons_ne_nil (packet : IdeaEvidencePacket) :
    packet.val.reasonCodes ≠ [] := by
  have valid := packet.valid
  simp only [IdeaEvidencePacketFields.checks, firstFailure_append, firstFailure_cons,
    List.isEmpty_eq_false_iff] at valid
  exact valid.1.2.2.1

theorem IdeaScore.score_bounded (score : IdeaScore) :
    0 ≤ score.val.score ∧ score.val.score ≤ 100 := by
  have valid := score.valid
  simp only [IdeaScoreFields.checks, firstFailure_cons, requireBoundedScore,
    decide_eq_false_iff_not, not_or, not_lt] at valid
  exact valid.2.1

theorem Detection.created_returns [Sha256] {d : Detection} {e : SignalEvaluation} (own : d.Of e)
    {score : Except PyError IdeaScore} {result : SignalEvaluationResult}
    (returned : d.created score = .ok result) :
    ∃ signal candidate, e.Detected result signal candidate := by
  unfold Detection.created at returned
  obtain ⟨identity, -, returned⟩ := Except.seq_returns.mp returned
  obtain ⟨signal, madeSignal, returned⟩ := Except.seq_returns.mp returned
  obtain ⟨lineage, -, returned⟩ := Except.seq_returns.mp returned
  obtain ⟨packet, madePacket, returned⟩ := Except.seq_returns.mp returned
  obtain ⟨candidate, madeCandidate, returned⟩ := Except.seq_returns.mp returned
  unfold Detection.candidate at madeCandidate
  obtain ⟨initial, -, madeCandidate⟩ := Except.seq_returns.mp madeCandidate
  obtain ⟨ideaScore, -, madeCandidate⟩ := Except.seq_returns.mp madeCandidate
  have applicable := Detection.signal_applicable madeSignal
  have signalFields := Checked.make_eq_ok.mp madeSignal
  have packetFields := Checked.make_eq_ok.mp madePacket
  have candidateFields := Checked.make_eq_ok.mp madeCandidate
  have reasons := packet.reasons_ne_nil
  cases returned
  refine ⟨signal, candidate, ?_⟩
  exact
    { outcome := rfl
      answered := ⟨rfl, rfl⟩
      family := ⟨own.family, by rw [signalFields, own.family], by rw [candidateFields, own.family]⟩
      sources := by
        rw [signalFields, candidateFields, packetFields]
        exact ⟨own.sourceRefs, own.sourceRefs⟩
      evidence := by
        rw [candidateFields, packetFields]
        exact ⟨rfl, rfl⟩
      generated := by rw [candidateFields]
      signals := by rw [candidateFields]
      scope := by rw [candidateFields, own.accessScope]
      times := by
        rw [signalFields, candidateFields, packetFields]
        exact ⟨own.evaluatedAtUtc, own.evaluatedAtUtc, own.evaluatedAtUtc, own.evaluatedAtUtc⟩
      applicable := by
        rw [candidateFields, packetFields, ← own.evaluatedAtUtc]
        exact applicable
      scored := by
        rw [candidateFields]
        exact ⟨ideaScore, rfl, ideaScore.score_bounded⟩
      reasons := by
        rw [candidateFields]
        exact ⟨rfl, reasons⟩ }

/-! ## The guards of a family -/

/-- The families that look at the dates of their sources first. -/
theorem sourcesReady_after_temporal {entitlementAllowed : Bool}
    {required : List (Option SourceRef)} {asOfDate : Date} {evaluatedAtUtc : DateTime}
    {sourceRefs : List SourceRef} :
    SourcesReady entitlementAllowed required asOfDate evaluatedAtUtc sourceRefs ↔
      TemporallySound asOfDate evaluatedAtUtc sourceRefs ∧ entitlementAllowed = true ∧
        (∀ ref ∈ required, ref.isSome = true) ∧ AllCurrent sourceRefs := by
  rw [sourcesReady_iff]
  constructor
  · rintro ⟨entitled, present, temporal, current⟩
    exact ⟨temporal, entitled, present, current⟩
  · rintro ⟨temporal, entitled, present, current⟩
    exact ⟨entitled, present, temporal, current⟩

/-- Values that are material are there, so that a guard which asks for them adds nothing. -/
theorem guard_implied {temporal ready given material : Prop} (implied : material → given) :
    (temporal ∧ ready ∧ given) ∧ material ↔ (temporal ∧ ready) ∧ material := by
  constructor
  · rintro ⟨⟨sound, passed, -⟩, reached⟩
    exact ⟨⟨sound, passed⟩, reached⟩
  · rintro ⟨⟨sound, passed⟩, reached⟩
    exact ⟨⟨sound, passed, implied reached⟩, reached⟩

/-- The evaluation is screened by its family's condition, and what it goes on to
returns nothing but its candidate. -/
def SignalEvaluation.FailsClosed [Sha256] [CaseMapping] (e : SignalEvaluation) : Prop :=
  ∃ next : Evaluation,
    Screens Refusal (e.evaluatedAtUtc.isNaive = false ∧ e.ValuesValid) e.evaluate e.Eligible
      next ∧
    ∀ result, next = .ok result → ∃ signal candidate, e.Detected result signal candidate

theorem SignalEvaluation.eligible_iff [CaseMapping] {e : SignalEvaluation} :
    e.Eligible ↔ e.evaluatedAtUtc.isNaive = false ∧
      SourcesReady e.entitlementAllowed e.requiredRefs e.asOfDate e.evaluatedAtUtc e.sourceRefs ∧
        e.ValuesValid ∧ e.Material :=
  ⟨fun eligible => ⟨eligible.aware, eligible.ready, eligible.valid, eligible.material⟩,
    fun ⟨aware, ready, valid, material⟩ => ⟨aware, ready, valid, material⟩⟩

theorem validateEvaluationTime_eq_ok {evaluatedAtUtc : DateTime} :
    validateEvaluationTime evaluatedAtUtc = .ok ⟨⟩ ↔ evaluatedAtUtc.isNaive = false := by
  unfold validateEvaluationTime
  rw [validate_eq_ok]
  simp [requireAware]

/-- The time of the evaluation is looked at first. -/
theorem after_time (evaluatedAtUtc : DateTime) (next : Evaluation) :
    Screens Refusal (evaluatedAtUtc.isNaive = false)
      (do validateEvaluationTime evaluatedAtUtc; next) (evaluatedAtUtc.isNaive = false) next :=
  (Screens.checked validateEvaluationTime_eq_ok fun _ => .goes).mono
    (fun aware => ⟨aware, trivial⟩) (by simp)

theorem absent_guarded {family : OpportunityFamily} (required : List (Option SourceRef))
    {found : Option SignalEvaluationResult} {count : Nat} {p : Prop}
    (counted : count = required.length - (available required).length)
    (rest : Guarded Refusal found p) :
    Guarded Refusal (if count ≠ 0 then some (missingSources family count) else found)
      ((∀ ref ∈ required, ref.isSome = true) ∧ p) :=
  (Guarded.test (blocked_refuses family _ _) fun _ => rest).of_iff (by
    rw [← length_available, counted, not_not])

namespace SignalEvaluation
variable [Sha256] [CaseMapping]

/-- A run of the shape that the families share: the time, a guard on the sources,
a guard on the values, and the candidate. -/
theorem failsClosed {e : SignalEvaluation} {block : Option SignalEvaluationResult}
    {rest : Evaluation} (next : Evaluation) (material : Prop) {sourced : Prop}
    (runs : e.evaluate = do
      validateEvaluationTime e.evaluatedAtUtc
      settle block rest)
    (sources : Guarded Refusal block sourced)
    (values : sourced → Screens Refusal e.ValuesValid rest (e.ValuesValid ∧ material) next)
    (same : sourced ∧ material ↔
      SourcesReady e.entitlementAllowed e.requiredRefs e.asOfDate e.evaluatedAtUtc e.sourceRefs ∧
        e.Material)
    (detects : ∀ result, next = .ok result →
      ∃ signal candidate, e.Detected result signal candidate) :
    e.FailsClosed := by
  refine ⟨next, ?_, detects⟩
  have screened := (after_time e.evaluatedAtUtc _).trans fun _ =>
    (sources.screens rest).trans values
  rw [runs]
  refine screened.mono ?_ ?_
  · rintro ⟨aware, valid⟩
    exact ⟨aware, fun _ => ⟨trivial, fun _ => valid⟩⟩
  · rw [eligible_iff, and_congr_right_iff]
    intro _
    rw [and_left_comm, same]
    exact and_left_comm

/-- The shape with two guards on the sources. -/
theorem failsClosed_twice {e : SignalEvaluation} {first second : Option SignalEvaluationResult}
    {rest : Evaluation} (next : Evaluation) (material : Prop) {sourced : Prop}
    (runs : e.evaluate = do
      validateEvaluationTime e.evaluatedAtUtc
      settle first (settle second rest))
    (sources : Guarded Refusal (first.or second) sourced)
    (values : sourced → Screens Refusal e.ValuesValid rest (e.ValuesValid ∧ material) next)
    (same : sourced ∧ material ↔
      SourcesReady e.entitlementAllowed e.requiredRefs e.asOfDate e.evaluatedAtUtc e.sourceRefs ∧
        e.Material)
    (detects : ∀ result, next = .ok result →
      ∃ signal candidate, e.Detected result signal candidate) :
    e.FailsClosed :=
  failsClosed next material (by rw [settle_or]; exact runs) sources values same detects

end SignalEvaluation

/-- One source that must be there. -/
theorem single_guarded {family : OpportunityFamily} {ref : Option SourceRef}
    {found : Option SignalEvaluationResult} {p : Prop} (rest : Guarded Refusal found p) :
    Guarded Refusal (if ref.isNone then some (missingSources family 1) else found)
      ((∀ own ∈ [ref], own.isSome = true) ∧ p) :=
  (Guarded.test (blocked_refuses family _ _) fun _ => rest).of_iff (by
    simp [Option.isSome_iff_ne_none])

/-- A status that must read as `expected`. -/
theorem status_guarded [CaseMapping] {family : OpportunityFamily} {status : Option String}
    {expected : String} :
    Guarded Refusal
      (match status with
      | none => some (missingSources family 1)
      | some text =>
          if CaseMapping.lower text ≠ expected then some (uncertifiedSource family) else none)
      (SignalEvaluation.ReadsAs status expected) := by
  cases status with
  | none =>
      refine (Guarded.closed (blocked_refuses family _ _)).of_iff ?_
      simp [SignalEvaluation.ReadsAs]
  | some text =>
      refine (Guarded.last (blocked_refuses family _ _)).of_iff ?_
      simp [SignalEvaluation.ReadsAs]

theorem current_guarded {family : OpportunityFamily} {source : SourceRef}
    {found : Option SignalEvaluationResult} {p : Prop} (rest : Guarded Refusal found p) :
    Guarded Refusal
      (if source.val.freshness ≠ .current then some (staleSource family) else found)
      (AllCurrent (available [some source]) ∧ p) :=
  (Guarded.test (blocked_refuses family _ _) fun _ => rest).of_iff (by
    simp [AllCurrent, available])

theorem sourceGuard_guarded {family : OpportunityFamily} {entitlementAllowed : Bool}
    {ref : Option SourceRef} :
    Guarded Refusal (sourceGuard family entitlementAllowed ref)
      (entitlementAllowed = true ∧ (∀ own ∈ [ref], own.isSome = true) ∧
        AllCurrent (available [ref])) := by
  refine denied_guarded ?_
  cases ref with
  | none => exact (Guarded.closed (blocked_refuses family _ _)).of_iff (by simp)
  | some source => exact (current_guarded .free).of_iff (by simp)

/-- The one source of a risk report, and its state. -/
theorem riskSource_guarded [CaseMapping] {family : OpportunityFamily} {entitlementAllowed : Bool}
    {ref : Option SourceRef} {asOfDate : Date} {evaluatedAtUtc : DateTime}
    {state : Option String} :
    Guarded Refusal
      (if !entitlementAllowed then some (entitlementDenied family)
      else
        match ref with
        | none => some (missingSources family 1)
        | some source =>
            (temporalBlockedSignalResult family asOfDate evaluatedAtUtc [source]).or
              (if source.val.freshness ≠ .current then some (staleSource family)
              else riskStateBlock family state))
      (entitlementAllowed = true ∧ (∀ own ∈ [ref], own.isSome = true) ∧
        TemporallySound asOfDate evaluatedAtUtc (available [ref]) ∧
          AllCurrent (available [ref]) ∧ SignalEvaluation.ReadsAs state "ready") := by
  refine denied_guarded ?_
  cases ref with
  | none => exact (Guarded.closed (blocked_refuses family _ _)).of_iff (by simp)
  | some source =>
      exact ((temporal_guarded ..).or fun _ => current_guarded status_guarded).of_iff (by
        simp [available])

theorem weightCheck_passes {weight : Decimal} {fieldName : String} :
    (weightCheck weight fieldName).1 = false ↔ 0 ≤ weight.value ∧ weight.value ≤ 1 := by
  simp [weightCheck]

theorem countCheck_passes {count : Int} {fieldName : String} :
    (countCheck count fieldName).1 = false ↔ 0 ≤ count := by
  simp [countCheck]

theorem optionalWeightCheck_passes {weight : Option Decimal} {fieldName : String} :
    firstFailure (optionalWeightCheck weight fieldName) = none ↔
      ∀ value ∈ weight, 0 ≤ value.value ∧ value.value ≤ 1 := by
  cases weight with
  | none => simp [optionalWeightCheck]
  | some value => simp [optionalWeightCheck, weightCheck_passes]

/-! ## Values -/

namespace SignalEvaluation

theorem highCash_values [CaseMapping] (sourceInput : HighCashSignalInput)
    (policy : HighCashSignalPolicy) :
    Finds Refusal (highCashMaterialityResult sourceInput policy)
      (highCash sourceInput policy).ValuesValid (highCash sourceInput policy).Material := by
  unfold highCashMaterialityResult
  cases given : sourceInput.sourceReportedCashWeight with
  | none => exact (Finds.refused (blocked_refuses ..)).mono (by simp [Material, given])
  | some weight =>
      refine (Finds.checked ?_ (.last (belowMateriality_refuses .highCash))).mono ?_
      · simp [validate_eq_ok, weightCheck_passes, ValuesValid, given]
      · simp [Material, given]

theorem concentration_values (sourceInput : ConcentrationRiskSignalInput)
    (policy : ConcentrationRiskSignalPolicy) :
    Finds Refusal (concentrationRiskMaterialityResult sourceInput policy)
      (concentration sourceInput policy).ValuesValid
      ((∃ weight ∈ sourceInput.topPositionWeightCurrent,
          policy.val.topPositionWeightThreshold.value ≤ weight.value) ∨
        ∃ weight ∈ sourceInput.topIssuerWeightCurrent,
          policy.val.topIssuerWeightThreshold.value ≤ weight.value) := by
  unfold concentrationRiskMaterialityResult
  refine (Finds.checked ?_ (.test (blocked_refuses ..) fun _ =>
    .last (belowMateriality_refuses .concentration))).mono ?_
  · rw [validate_eq_ok, firstFailure_append, optionalWeightCheck_passes,
      optionalWeightCheck_passes]
    exact Iff.rfl
  · intro _
    unfold concentrationRiskBelowMateriality
    cases sourceInput.topPositionWeightCurrent with
    | none => cases sourceInput.topIssuerWeightCurrent <;> simp
    | some position =>
        cases sourceInput.topIssuerWeightCurrent with
        | none => simp
        | some issuer => simp [← not_lt, imp_iff_not_or]

theorem underperformance_values (sourceInput : UnderperformanceSignalInput)
    (policy : UnderperformanceSignalPolicy) :
    Finds Refusal (underperformanceMaterialityResult sourceInput policy)
      (underperformance sourceInput policy).ValuesValid
      (∃ activeReturn ∈ sourceInput.sourceReportedActiveReturn,
        activeReturn.value ≤ policy.val.activeReturnThreshold.value) := by
  unfold underperformanceMaterialityResult
  cases given : sourceInput.sourceReportedActiveReturn with
  | none => exact (Finds.refused (blocked_refuses ..)).mono (by simp)
  | some activeReturn =>
      refine (Finds.checked ?_ (.last (belowMateriality_refuses .underperformance))).mono ?_
      · simp [validate_eq_ok, ValuesValid, given]
      · simp

theorem mandateHealth_values (sourceInput : MandateHealthSignalInput)
    (policy : MandateHealthSignalPolicy) :
    Finds Refusal (mandateHealthMaterialityResult sourceInput policy)
      (mandateHealth sourceInput policy).ValuesValid
      (∃ workflowCount ∈ sourceInput.workflowDecisionCount,
        ∃ lineageCount ∈ sourceInput.lineageEdgeCount,
          policy.val.minimumWorkflowDecisionCount ≤ workflowCount ∧
            policy.val.minimumLineageEdgeCount ≤ lineageCount) := by
  unfold mandateHealthMaterialityResult
  cases given : sourceInput.workflowDecisionCount with
  | none => exact (Finds.refused (blocked_refuses ..)).mono (by simp)
  | some workflowCount =>
      cases givenToo : sourceInput.lineageEdgeCount with
      | none => exact (Finds.refused (blocked_refuses ..)).mono (by simp)
      | some lineageCount =>
          refine (Finds.checked ?_ (.last (belowMateriality_refuses .allocationDrift))).mono ?_
          · simp [validate_eq_ok, countCheck_passes, ValuesValid, given, givenToo]
          · simp

theorem lowIncome_values [CaseMapping] (sourceInput : LowIncomeSignalInput)
    (policy : LowIncomeSignalPolicy) :
    Finds Refusal (sourceCashflowMaterialityResult sourceInput policy)
      (lowIncome sourceInput policy).ValuesValid (lowIncome sourceInput policy).Material := by
  unfold sourceCashflowMaterialityResult
  cases given : sourceInput.cashMovementCount with
  | none => exact (Finds.refused (blocked_refuses ..)).mono (by simp [Material, given])
  | some count =>
      have checks : validate [countCheck count "cash_movement_count"] = .ok ⟨⟩ ↔
          (lowIncome sourceInput policy).ValuesValid := by
        simp [validate_eq_ok, countCheck_passes, ValuesValid, given]
      cases reported : sourceInput.sourceReportedMinProjectedCumulativeCashflow with
      | none =>
          refine (Finds.checked checks (.closed (blocked_refuses ..))).mono ?_
          simp [Material, reported]
      | some cashflow =>
          refine (Finds.checked checks (.last (belowMateriality_refuses .lowIncome))).mono ?_
          simp [Material, given, reported]

theorem highVolatility_values [Sha256] [CaseMapping] (sourceInput : HighVolatilitySignalInput)
    (policy : HighVolatilitySignalPolicy)
    (present : ∀ own ∈ [sourceInput.riskRef], own.isSome = true) :
    Screens Refusal (highVolatility sourceInput policy).ValuesValid
      (do
        match sourceInput.sourceReportedVolatility with
        | none => return missingSources .highVolatility 1
        | some volatility =>
            validate [(decide (volatility.value < 0),
              .valueError "source_reported_volatility must be non-negative")]
            if volatility.value < policy.val.volatilityThreshold.value then
              return belowMateriality .highVolatility
            else
              match sourceInput.riskRef with
              | none => return missingSources .highVolatility 1
              | some riskRef =>
                  (highVolatilityDetection sourceInput policy [riskRef]).created
                    (highVolatilityScore sourceInput policy))
      ((highVolatility sourceInput policy).ValuesValid ∧
        ∃ volatility ∈ sourceInput.sourceReportedVolatility,
          policy.val.volatilityThreshold.value ≤ volatility.value)
      ((highVolatilityDetection sourceInput policy
        (highVolatility sourceInput policy).sourceRefs).created
          (highVolatilityScore sourceInput policy)) := by
  obtain ⟨asOfDate, volatility, state, ref, evaluatedAtUtc, allowed, scope⟩ := sourceInput
  obtain ⟨source, rfl⟩ := Option.isSome_iff_exists.mp (present ref List.mem_cons_self)
  cases volatility with
  | none => exact (Screens.refused (blocked_refuses ..)).mono id (by simp)
  | some volatility =>
      have checks : validate [(decide (volatility.value < 0),
          .valueError "source_reported_volatility must be non-negative")] = .ok ⟨⟩ ↔
            0 ≤ volatility.value := by
        simp [validate_eq_ok]
      refine (Screens.checked checks fun _ => .test
        (belowMateriality_refuses .highVolatility) .goes).mono ?_ ?_
      · simp [ValuesValid]
      · simp [ValuesValid]

section Candidates
variable [Sha256]

/-- The candidate of a drawdown that is there. -/
def drawdownReviewCandidate (sourceInput : DrawdownReviewSignalInput)
    (policy : DrawdownReviewSignalPolicy) : Evaluation :=
  match sourceInput.sourceReportedMaxDrawdown with
  | none => .error .assertionError
  | some maxDrawdown =>
      (drawdownReviewDetection sourceInput policy maxDrawdown
        (available [sourceInput.riskRef])).created (drawdownReviewScore policy maxDrawdown)

/-- What a drawdown review does once its sources are ready. -/
def drawdownReviewRest (sourceInput : DrawdownReviewSignalInput)
    (policy : DrawdownReviewSignalPolicy) : Evaluation := do
  match ← drawdownReviewMaterialityOrBlock sourceInput policy with
  | .inl result => return result
  | .inr maxDrawdown =>
      (drawdownReviewDetection sourceInput policy maxDrawdown
        (available [sourceInput.riskRef])).created (drawdownReviewScore policy maxDrawdown)

/-- The candidate of a maturity date that is there. -/
def bondMaturityCandidate (sourceInput : BondMaturitySignalInput)
    (policy : BondMaturitySignalPolicy) : Evaluation :=
  match sourceInput.sourceReportedNextMaturityDate with
  | none => .error .assertionError
  | some maturityDate =>
      (bondMaturityDetection sourceInput policy (availableBondMaturitySourceRefs sourceInput)
        (.utc ((maturityDate.days + 1) * 86400000000))).created
          (bondMaturityScore sourceInput policy maturityDate)

end Candidates

/-- A status that is not actionable adds nothing to the two flags. -/
theorem restrictionReviewRequired_iff [CaseMapping] {status : String} {changed blocked : Bool} :
    restrictionReviewRequired status changed blocked = true ↔
      CaseMapping.upper status ∈ actionableRestrictionStatuses ∨ changed = true ∨
        blocked = true := by
  have apart : ∀ text ∈ nonActionableRestrictionStatuses,
      text ∉ actionableRestrictionStatuses := by decide
  unfold restrictionReviewRequired
  by_cases clear : CaseMapping.upper status ∈ nonActionableRestrictionStatuses
  · simp [clear, apart _ clear]
  · simp [clear, or_assoc]

/-- A gap that is reviewable is no current profile. -/
theorem riskProfileGap_iff [CaseMapping] {status : String} {effective reviewDue : Bool} :
    (¬riskProfileIsCurrent status effective reviewDue = true ∧
        riskProfileGapIsReviewable status effective reviewDue = true) ↔
      CaseMapping.upper status ∈ missingRiskProfileStatuses ∨ effective = false ∨
        reviewDue = true := by
  have apart : ∀ text ∈ currentRiskProfileStatuses, text ∉ missingRiskProfileStatuses := by decide
  unfold riskProfileIsCurrent riskProfileGapIsReviewable
  by_cases current : CaseMapping.upper status ∈ currentRiskProfileStatuses
  · simp [current, apart _ current]
    cases effective <;> simp
  · simp [current, or_assoc]

/-- A status that reads `ready` passes for an assignment that is ready. -/
theorem benchmarkReady_iff [CaseMapping] {resolved effective versioned : Bool}
    {assignmentStatus : Option String} :
    benchmarkAssignmentDiagnostic resolved effective assignmentStatus versioned ≠
        "core_benchmark_assignment_ready" ↔
      resolved = false ∨ effective = false ∨
        (CaseMapping.lower (strippedStatus assignmentStatus) ≠ "ready" ∧
          (CaseMapping.lower (strippedStatus assignmentStatus) = "active" →
            versioned = false)) := by
  unfold benchmarkAssignmentDiagnostic
  generalize CaseMapping.lower (strippedStatus assignmentStatus) = status
  cases resolved with
  | false => simp
  | true =>
      cases effective with
      | false => simp
      | true =>
          have appended : ("core_benchmark_assignment_" ++ status =
              "core_benchmark_assignment_ready") ↔ status = "ready" := by
            have parts : "core_benchmark_assignment_ready" =
              "core_benchmark_assignment_" ++ "ready" := by decide
            rw [parts]
            exact String.append_right_inj _
          by_cases absent : status = ""
          · simp [absent]
          · by_cases active : status = "active"
            · cases versioned <;> simp [active]
            · simp [absent, active, appended]

/-! ## The families -/

section Families
variable [Sha256] [CaseMapping]

/-- A drawdown review has the guards of a risk report in front. -/
theorem drawdownReview_runs (sourceInput : DrawdownReviewSignalInput)
    (policy : DrawdownReviewSignalPolicy) :
    (drawdownReview sourceInput policy).evaluate = (do
      validateEvaluationTime sourceInput.evaluatedAtUtc
      settle
        (if !sourceInput.entitlementAllowed then some (entitlementDenied .highVolatility)
        else
          match sourceInput.riskRef with
          | none => some (missingSources .highVolatility 1)
          | some source =>
              (temporalBlockedSignalResult .highVolatility sourceInput.asOfDate
                sourceInput.evaluatedAtUtc [source]).or
                (if source.val.freshness ≠ .current then some (staleSource .highVolatility)
                else riskStateBlock .highVolatility sourceInput.riskSupportabilityState))
        (drawdownReviewRest sourceInput policy)) := by
  rw [evaluate, evaluateDrawdownReviewSignal]
  apply congrArg (validateEvaluationTime sourceInput.evaluatedAtUtc >>= ·)
  funext _
  unfold drawdownReviewSourceRefsOrBlock
  by_cases allowed : sourceInput.entitlementAllowed = true
  · cases given : sourceInput.riskRef with
    | none => simp [allowed, pure, Except.pure]
    | some source =>
        cases temporal : temporalBlockedSignalResult .highVolatility sourceInput.asOfDate
            sourceInput.evaluatedAtUtc [source] with
        | some result => simp [allowed, temporal, pure, Except.pure]
        | none =>
            by_cases current : source.val.freshness = .current
            · cases state : riskStateBlock .highVolatility sourceInput.riskSupportabilityState with
              | some result => simp [allowed, temporal, current, pure, Except.pure]
              | none =>
                  have refs : [source] = available [sourceInput.riskRef] := by
                    simp [available, given]
                  simp only [allowed, temporal, current, Bool.not_true, Bool.false_eq_true,
                    ↓reduceIte, ne_eq, not_true_eq_false, Option.or_self, settle_none]
                  rw [refs]
                  rfl
            · simp [allowed, temporal, current, pure, Except.pure]
  · simp [allowed, pure, Except.pure]

omit [CaseMapping] in
theorem drawdownReview_values (sourceInput : DrawdownReviewSignalInput)
    (policy : DrawdownReviewSignalPolicy) :
    Screens Refusal (drawdownReview sourceInput policy).ValuesValid
      (drawdownReviewRest sourceInput policy)
      ((drawdownReview sourceInput policy).ValuesValid ∧
        ∃ maxDrawdown ∈ sourceInput.sourceReportedMaxDrawdown,
          maxDrawdown.value ≤ policy.val.maxDrawdownThreshold.value)
      (drawdownReviewCandidate sourceInput policy) := by
  cases given : sourceInput.sourceReportedMaxDrawdown with
  | none =>
      have run : drawdownReviewRest sourceInput policy =
          .ok (missingSources .highVolatility 1) := by
        rw [drawdownReviewRest, drawdownReviewMaterialityOrBlock, given]
        rfl
      rw [run]
      exact (Screens.refused (blocked_refuses ..)).mono id (by simp)
  | some maxDrawdown =>
      have run : drawdownReviewRest sourceInput policy = (do
          validate [(decide (0 < maxDrawdown.value), .valueError
            "source_reported_max_drawdown must be zero or negative")]
          if policy.val.maxDrawdownThreshold.value < maxDrawdown.value then
            .ok (belowMateriality .highVolatility)
          else drawdownReviewCandidate sourceInput policy) := by
        unfold drawdownReviewRest drawdownReviewMaterialityOrBlock drawdownReviewCandidate
        simp only [given, bind_assoc, pure_bind]
        apply congrArg (validate _ >>= ·)
        funext _
        by_cases below : policy.val.maxDrawdownThreshold.value < maxDrawdown.value
        · rw [if_pos below, if_pos below]
          rfl
        · rw [if_neg below, if_neg below]
      have checks : validate [(decide (0 < maxDrawdown.value), .valueError
          "source_reported_max_drawdown must be zero or negative")] = .ok ⟨⟩ ↔
            maxDrawdown.value ≤ 0 := by
        simp [validate_eq_ok]
      rw [run]
      refine (Screens.checked checks fun _ => .test
        (belowMateriality_refuses .highVolatility) .goes).mono ?_ ?_
      · simp [ValuesValid, given]
      · simp [ValuesValid, given]

omit [Sha256] [CaseMapping] in
theorem bondMaturity_count (sourceInput : BondMaturitySignalInput) :
    Finds Refusal (sourceValueSupportabilityResult sourceInput)
      (∀ count ∈ sourceInput.sourceReportedMaturingPositionCount, 0 ≤ count)
      (∃ count ∈ sourceInput.sourceReportedMaturingPositionCount, count ≠ 0) := by
  unfold sourceValueSupportabilityResult
  cases sourceInput.sourceReportedMaturingPositionCount with
  | none => exact (Finds.refused (blocked_refuses ..)).mono (by simp)
  | some count =>
      refine (Finds.checked ?_ (.last (belowMateriality_refuses .bondMaturity))).mono ?_
      · simp [validate_eq_ok, countCheck_passes]
      · simp

omit [Sha256] [CaseMapping] in
/-- The end of the window is looked for before the end of the maturity date. -/
theorem bondMaturity_date (sourceInput : BondMaturitySignalInput)
    (policy : BondMaturitySignalPolicy) {maturityDate : Date}
    (coming : sourceInput.asOfDate.days ≤ maturityDate.days) (created : DateTime → Evaluation) :
    Screens Refusal
      (InCalendar sourceInput.asOfDate maturityDate policy.val.maturityWindowDays)
      (do
        if ← withinMaturityWindow sourceInput.asOfDate maturityDate
            policy.val.maturityWindowDays then
          let expiresAtUtc ← bondMaturityApplicabilityExpiry maturityDate
          if expiresAtUtc ≤ sourceInput.evaluatedAtUtc then return notEligibleExpired
          else created expiresAtUtc
        else return belowMateriality .bondMaturity)
      (InCalendar sourceInput.asOfDate maturityDate policy.val.maturityWindowDays ∧
        maturityDate.days ≤ sourceInput.asOfDate.days + policy.val.maturityWindowDays ∧
          sourceInput.evaluatedAtUtc < .utc ((maturityDate.days + 1) * 86400000000))
      (created (.utc ((maturityDate.days + 1) * 86400000000))) := by
  have inRange : ∀ days : Int, validate [(decide ¬DateTime.DayInRange days,
      .overflowError "date value out of range")] = .ok ⟨⟩ ↔ DateTime.DayInRange days := by
    intro days
    simp [validate_eq_ok]
  have run : (do
        if ← withinMaturityWindow sourceInput.asOfDate maturityDate
            policy.val.maturityWindowDays then
          let expiresAtUtc ← bondMaturityApplicabilityExpiry maturityDate
          if expiresAtUtc ≤ sourceInput.evaluatedAtUtc then return notEligibleExpired
          else created expiresAtUtc
        else return belowMateriality .bondMaturity) = (do
      validate [(decide ¬DateTime.DayInRange
        (sourceInput.asOfDate.days + policy.val.maturityWindowDays),
          .overflowError "date value out of range")]
      if maturityDate.days ≤ sourceInput.asOfDate.days + policy.val.maturityWindowDays then do
        validate [(decide ¬DateTime.DayInRange (maturityDate.days + 1),
          .overflowError "date value out of range")]
        if (.utc ((maturityDate.days + 1) * 86400000000) : DateTime) ≤
            sourceInput.evaluatedAtUtc then .ok notEligibleExpired
        else created (.utc ((maturityDate.days + 1) * 86400000000))
      else .ok (belowMateriality .bondMaturity)) := by
    unfold withinMaturityWindow bondMaturityApplicabilityExpiry addDays
    simp only [coming, if_true, bind_assoc, pure_bind, decide_eq_true_eq]
    rfl
  rw [run]
  refine (Screens.checked (inRange _) fun _ => .branch (belowMateriality_refuses .bondMaturity)
    (.checked (inRange _) fun _ => .test notEligibleExpired_refuses .goes)).mono ?_ ?_
  · intro calendar
    exact ⟨(calendar coming).1, (calendar coming).2, trivial⟩
  · simp only [InCalendar, coming, true_imp_iff, and_true, DateTime.le_def, DateTime.lt_def, not_le]
    constructor
    · rintro ⟨window, within, next, later⟩
      exact ⟨⟨window, next⟩, within, later⟩
    · rintro ⟨⟨window, next⟩, within, later⟩
      exact ⟨window, within, next, later⟩

theorem bondMaturity_values (sourceInput : BondMaturitySignalInput)
    (policy : BondMaturitySignalPolicy) :
    Screens Refusal (bondMaturity sourceInput policy).ValuesValid
      (do
        let sourceValue ← sourceValueSupportabilityResult sourceInput
        settle sourceValue
          (match sourceInput.sourceReportedNextMaturityDate with
          | none => .ok (missingSources .bondMaturity 1)
          | some maturityDate => do
              if ← withinMaturityWindow sourceInput.asOfDate maturityDate
                  policy.val.maturityWindowDays then
                let expiresAtUtc ← bondMaturityApplicabilityExpiry maturityDate
                if expiresAtUtc ≤ sourceInput.evaluatedAtUtc then return notEligibleExpired
                else
                  (bondMaturityDetection sourceInput policy
                    (availableBondMaturitySourceRefs sourceInput) expiresAtUtc).created
                      (bondMaturityScore sourceInput policy maturityDate)
              else return belowMateriality .bondMaturity))
      ((bondMaturity sourceInput policy).ValuesValid ∧
        (bondMaturity sourceInput policy).Material)
      (bondMaturityCandidate sourceInput policy) := by
  unfold bondMaturityCandidate
  cases given : sourceInput.sourceReportedNextMaturityDate with
  | none =>
      have missing : Screens Refusal True (.ok (missingSources .bondMaturity 1)) False
          (.error .assertionError : Evaluation) := .refused (blocked_refuses ..)
      refine (((bondMaturity_count sourceInput).screens _).trans fun _ => missing).mono ?_ ?_
      · exact fun valid => ⟨valid.1, fun _ => trivial⟩
      · simp [Material, given]
  | some maturityDate =>
      dsimp only
      by_cases coming : sourceInput.asOfDate.days ≤ maturityDate.days
      · refine (((bondMaturity_count sourceInput).screens _).trans fun _ =>
          bondMaturity_date sourceInput policy coming fun expiresAtUtc =>
            (bondMaturityDetection sourceInput policy
              (availableBondMaturitySourceRefs sourceInput) expiresAtUtc).created
                (bondMaturityScore sourceInput policy maturityDate)).mono ?_ ?_
        · exact fun valid => ⟨valid.1, fun _ => valid.2 maturityDate given⟩
        · simp only [ValuesValid, Material, given, coming, Option.mem_some_iff, forall_eq',
            exists_eq_left', true_and]
          exact and_and_and_comm
      · have past : withinMaturityWindow sourceInput.asOfDate maturityDate
            policy.val.maturityWindowDays = .ok false := by
          rw [withinMaturityWindow, if_neg coming]
          rfl
        rw [past]
        have below : Screens Refusal True (.ok (belowMateriality .bondMaturity)) False
            ((bondMaturityDetection sourceInput policy
              (availableBondMaturitySourceRefs sourceInput)
                (.utc ((maturityDate.days + 1) * 86400000000))).created
                  (bondMaturityScore sourceInput policy maturityDate)) :=
          .refused (belowMateriality_refuses .bondMaturity)
        refine (((bondMaturity_count sourceInput).screens _).trans fun _ => below).mono ?_ ?_
        · exact fun valid => ⟨valid.1, fun _ => trivial⟩
        · simp [Material, given, coming]

theorem highCash_failsClosed (sourceInput : HighCashSignalInput) (policy : HighCashSignalPolicy) :
    (highCash sourceInput policy).FailsClosed := by
  have sources : Guarded Refusal
      (highCashSourceBlock sourceInput (availableSourceRefs sourceInput)) _ :=
    denied_guarded (absent_guarded (highCash sourceInput policy).requiredRefs rfl
      ((temporal_guarded ..).or fun _ => stale_guarded .free))
  refine failsClosed
    ((highCashDetection sourceInput policy (availableSourceRefs sourceInput)).created
      (highCashScore sourceInput policy)) _ rfl sources
    (fun _ => (highCash_values sourceInput policy).screens _) ?_ ?_
  · rw [sourcesReady_iff, and_true]
    exact Iff.rfl
  · exact fun result returned => Detection.created_returns ⟨rfl, rfl, rfl, rfl⟩ returned

theorem concentration_failsClosed (sourceInput : ConcentrationRiskSignalInput)
    (policy : ConcentrationRiskSignalPolicy) :
    (concentration sourceInput policy).FailsClosed := by
  have sources : Guarded Refusal
      ((concentrationRiskPreSourceBlock sourceInput).or
        (concentrationRiskSourceBlock sourceInput (concentrationRiskSourceRefs sourceInput))) _ :=
    (denied_guarded (single_guarded .free)).or fun _ =>
      (temporal_guarded ..).or fun _ => stale_guarded status_guarded
  refine failsClosed_twice
    ((concentrationDetection sourceInput policy (concentrationRiskSourceRefs sourceInput)).created
      (concentrationScore sourceInput policy)) _ rfl sources
    (fun _ => (concentration_values sourceInput policy).screens _) ?_ ?_
  · rw [sourcesReady_iff, and_true]
    simp only [and_assoc]
    exact Iff.rfl
  · exact fun result returned => Detection.created_returns ⟨rfl, rfl, rfl, rfl⟩ returned

theorem underperformance_failsClosed (sourceInput : UnderperformanceSignalInput)
    (policy : UnderperformanceSignalPolicy) :
    (underperformance sourceInput policy).FailsClosed := by
  have benchmark : Guarded Refusal
      (if !sourceInput.benchmarkContextAvailable then
        some (blockedSignalResult .underperformance [.missingBenchmark] [.missingSource])
      else none) (sourceInput.benchmarkContextAvailable = true) :=
    (Guarded.last (blocked_refuses ..)).of_iff (by simp)
  have sources : Guarded Refusal
      ((underperformancePreSourceBlock sourceInput).or
        (underperformanceSourceBlock sourceInput (underperformanceSourceRefs sourceInput))) _ :=
    (denied_guarded (single_guarded .free)).or fun _ =>
      .test (blocked_refuses ..) fun _ =>
        (temporal_guarded ..).or fun _ => stale_guarded benchmark
  refine failsClosed_twice
    ((underperformanceDetection sourceInput policy (underperformanceSourceRefs sourceInput)).created
      (underperformanceScore sourceInput policy)) _ rfl sources
    (fun _ => (underperformance_values sourceInput policy).screens _) ?_ ?_
  · have refs : (∀ own ∈ [sourceInput.performanceRef], own.isSome = true) →
        ¬(underperformanceSourceRefs sourceInput).isEmpty = true := by
      cases given : sourceInput.performanceRef with
      | none => simp
      | some ref => simp [underperformanceSourceRefs, available, given]
    rw [sourcesReady_iff, and_true]
    constructor
    · rintro ⟨⟨⟨entitled, present⟩, -, temporal, current, benchmark⟩, reached⟩
      exact ⟨⟨entitled, present, temporal, current⟩, benchmark, reached⟩
    · rintro ⟨⟨entitled, present, temporal, current⟩, benchmark, reached⟩
      exact ⟨⟨⟨entitled, present⟩, refs present, temporal, current, benchmark⟩, reached⟩
  · exact fun result returned => Detection.created_returns ⟨rfl, rfl, rfl, rfl⟩ returned

theorem mandateHealth_failsClosed (sourceInput : MandateHealthSignalInput)
    (policy : MandateHealthSignalPolicy) : (mandateHealth sourceInput policy).FailsClosed := by
  have confirmed : Guarded Refusal
      (if !sourceInput.portfolioScopeConfirmed then some (missingSources .allocationDrift 1)
      else
        match sourceInput.manageSupportabilityState with
        | none => some (missingSources .allocationDrift 1)
        | some state =>
            if CaseMapping.lower state ≠ "ready" then some (uncertifiedSource .allocationDrift)
            else none)
      (sourceInput.portfolioScopeConfirmed = true ∧
        ReadsAs sourceInput.manageSupportabilityState "ready") :=
    (Guarded.test (blocked_refuses ..) fun _ => status_guarded).of_iff (by simp)
  have sources : Guarded Refusal
      ((mandateHealthPreSourceBlock sourceInput).or
        (mandateHealthSourceBlock sourceInput (mandateHealthSourceRefs sourceInput))) _ :=
    (denied_guarded (single_guarded .free)).or fun _ =>
      (temporal_guarded ..).or fun _ => stale_guarded confirmed
  refine failsClosed_twice
    ((mandateHealthDetection sourceInput policy (mandateHealthSourceRefs sourceInput)).created
      (mandateHealthScore sourceInput policy)) _ rfl sources
    (fun _ => (mandateHealth_values sourceInput policy).screens _) ?_ ?_
  · rw [sourcesReady_iff, and_true]
    simp only [and_assoc]
    exact Iff.rfl
  · exact fun result returned => Detection.created_returns ⟨rfl, rfl, rfl, rfl⟩ returned

theorem lowIncome_failsClosed (sourceInput : LowIncomeSignalInput)
    (policy : LowIncomeSignalPolicy) : (lowIncome sourceInput policy).FailsClosed := by
  have sources : Guarded Refusal
      (lowIncomeBlockingPosture sourceInput (availableLowIncomeSourceRefs sourceInput)) _ :=
    (temporal_guarded ..).or fun _ =>
      denied_guarded (absent_guarded (lowIncome sourceInput policy).requiredRefs rfl
        (stale_guarded .free))
  refine failsClosed
    ((lowIncomeDetection sourceInput policy (availableLowIncomeSourceRefs sourceInput)).created
      (lowIncomeScore sourceInput policy)) _ rfl sources
    (fun _ => (lowIncome_values sourceInput policy).screens _) ?_ ?_
  · rw [and_true, sourcesReady_after_temporal]
    exact Iff.rfl
  · exact fun result returned => Detection.created_returns ⟨rfl, rfl, rfl, rfl⟩ returned

theorem mandateRestriction_failsClosed (sourceInput : MandateRestrictionSignalInput)
    (policy : MandateRestrictionSignalPolicy) :
    (mandateRestriction sourceInput policy).FailsClosed := by
  have sources : Guarded Refusal
      ((temporalGuard .mandateRestriction sourceInput.asOfDate sourceInput.evaluatedAtUtc
        sourceInput.restrictionRef).or (mandateRestrictionBlockingResult sourceInput)) _ :=
    (temporal_guarded ..).or fun _ => sourceGuard_guarded.or fun _ => .last (blocked_refuses ..)
  refine failsClosed_twice
    ((mandateRestrictionDetection sourceInput policy
      (mandateRestriction sourceInput policy).sourceRefs).created
        (mandateRestrictionScore sourceInput policy))
    (mandateRestriction sourceInput policy).Material rfl sources ?_ ?_ ?_
  · rintro ⟨-, ⟨-, present, -⟩, given⟩
    obtain ⟨asOfDate, ref, status, changed, blocked, evaluatedAtUtc, allowed, scope⟩ := sourceInput
    obtain ⟨source, rfl⟩ := Option.isSome_iff_exists.mp (present ref List.mem_cons_self)
    simp only [Bool.or_eq_true, not_or, Option.isNone_iff_eq_none, Option.ne_none_iff_exists']
      at given
    obtain ⟨⟨⟨status, rfl⟩, changed, rfl⟩, blocked, rfl⟩ := given
    refine (Screens.branch (belowMateriality_refuses .mandateRestriction) .goes).mono
      (fun _ => trivial) ?_
    rw [restrictionReviewRequired_iff]
    simp [ValuesValid, Material]
  · rw [sourcesReady_after_temporal]
    refine guard_implied ?_
    rintro ⟨status, given, changed, givenChanged, blocked, givenBlocked, -⟩
    simp [Option.mem_def.mp given, Option.mem_def.mp givenChanged, Option.mem_def.mp givenBlocked]
  · exact fun result returned => Detection.created_returns ⟨rfl, rfl, rfl, rfl⟩ returned

theorem missingRiskProfile_failsClosed (sourceInput : MissingRiskProfileSignalInput)
    (policy : MissingRiskProfileSignalPolicy) :
    (missingRiskProfile sourceInput policy).FailsClosed := by
  have sources : Guarded Refusal
      ((temporalGuard .missingRiskProfile sourceInput.asOfDate sourceInput.evaluatedAtUtc
        sourceInput.riskProfileRef).or (missingRiskProfileBlockingResult sourceInput)) _ :=
    (temporal_guarded ..).or fun _ => sourceGuard_guarded.or fun _ => .last (blocked_refuses ..)
  refine failsClosed_twice
    ((missingRiskProfileDetection sourceInput policy
      (missingRiskProfile sourceInput policy).sourceRefs).created
        (missingRiskProfileScore sourceInput policy))
    (missingRiskProfile sourceInput policy).Material rfl sources ?_ ?_ ?_
  · rintro ⟨-, ⟨-, present, -⟩, given⟩
    obtain ⟨asOfDate, ref, status, effective, reviewDue, evaluatedAtUtc, allowed, scope⟩ :=
      sourceInput
    obtain ⟨source, rfl⟩ := Option.isSome_iff_exists.mp (present ref List.mem_cons_self)
    simp only [Bool.or_eq_true, not_or, Option.isNone_iff_eq_none, Option.ne_none_iff_exists']
      at given
    obtain ⟨⟨⟨status, rfl⟩, effective, rfl⟩, reviewDue, rfl⟩ := given
    refine (Screens.test (belowMateriality_refuses .missingRiskProfile)
      (.test (blocked_refuses ..) .goes)).mono (fun _ => trivial) ?_
    simpa [ValuesValid, Material] using riskProfileGap_iff
  · rw [sourcesReady_after_temporal]
    refine guard_implied ?_
    rintro ⟨status, given, effective, givenEffective, reviewDue, givenDue, -⟩
    simp [Option.mem_def.mp given, Option.mem_def.mp givenEffective, Option.mem_def.mp givenDue]
  · exact fun result returned => Detection.created_returns ⟨rfl, rfl, rfl, rfl⟩ returned

theorem missingBenchmark_failsClosed (sourceInput : MissingBenchmarkSignalInput)
    (policy : MissingBenchmarkSignalPolicy) :
    (missingBenchmark sourceInput policy).FailsClosed := by
  have sources : Guarded Refusal (missingBenchmarkNonCandidateResult sourceInput)
      (sourceInput.entitlementAllowed = true ∧
        (∀ own ∈ [sourceInput.benchmarkAssignmentRef], own.isSome = true) ∧
          TemporallySound sourceInput.asOfDate sourceInput.evaluatedAtUtc
            (available [sourceInput.benchmarkAssignmentRef]) ∧
          AllCurrent (available [sourceInput.benchmarkAssignmentRef]) ∧
            (missingBenchmark sourceInput policy).Material) := by
    refine denied_guarded ?_
    cases given : sourceInput.benchmarkAssignmentRef with
    | none => exact (Guarded.closed (blocked_refuses ..)).of_iff (by simp)
    | some source =>
        refine ((temporal_guarded ..).or fun _ => current_guarded
          (.last (belowMateriality_refuses .missingBenchmark))).of_iff ?_
        rw [MissingBenchmarkSignalInput.diagnostic, ← ne_eq, benchmarkReady_iff]
        simp [available, Material]
  refine failsClosed
    ((missingBenchmarkDetection sourceInput policy
      (missingBenchmark sourceInput policy).sourceRefs).created
        (missingBenchmarkScore sourceInput policy)) True rfl sources ?_ ?_ ?_
  · rintro ⟨-, present, -⟩
    obtain ⟨asOfDate, ref, _, _, _, _, _, _, _⟩ := sourceInput
    obtain ⟨source, rfl⟩ := Option.isSome_iff_exists.mp (present ref List.mem_cons_self)
    exact Screens.goes.mono (fun _ => trivial) (by simp [ValuesValid])
  · rw [sourcesReady_iff, and_true]
    simp only [and_assoc]
    exact Iff.rfl
  · exact fun result returned => Detection.created_returns ⟨rfl, rfl, rfl, rfl⟩ returned

theorem missingSuitability_failsClosed (sourceInput : MissingSuitabilityContextSignalInput)
    (policy : MissingSuitabilityContextSignalPolicy) :
    (missingSuitability sourceInput policy).FailsClosed := by
  have workflow : Guarded Refusal
      (match sourceInput.clientReadyPublication with
      | none => some (missingSources .missingSuitabilityContext 1)
      | some publication =>
          if CaseMapping.upper publication ≠ "BLOCKED" then
            some (blockedSignalResult .missingSuitabilityContext [.reviewRequired]
              [.sourceUncertified])
          else if sourceInput.evaluationStatus.isNone || sourceInput.signOffStatus.isNone then
            some (missingSources .missingSuitabilityContext 1)
          else if sourceInput.openRequirementCount.isNone ||
              sourceInput.blockedRequirementCount.isNone ||
              sourceInput.signOffBlockerCount.isNone then
            some (missingSources .missingSuitabilityContext 1)
          else none)
      ((∃ publication ∈ sourceInput.clientReadyPublication,
          CaseMapping.upper publication = "BLOCKED") ∧
        (sourceInput.evaluationStatus.isSome = true ∧ sourceInput.signOffStatus.isSome = true) ∧
          sourceInput.openRequirementCount.isSome = true ∧
            sourceInput.blockedRequirementCount.isSome = true ∧
              sourceInput.signOffBlockerCount.isSome = true) := by
    cases sourceInput.clientReadyPublication with
    | none => exact (Guarded.closed (blocked_refuses ..)).of_iff (by simp)
    | some publication =>
        refine (Guarded.test (blocked_refuses ..) fun _ => .test (blocked_refuses ..) fun _ =>
          .last (blocked_refuses ..)).of_iff ?_
        simp [Option.isSome_iff_ne_none, and_assoc]
  have sources : Guarded Refusal
      ((temporalGuard .missingSuitabilityContext sourceInput.asOfDate sourceInput.evaluatedAtUtc
        sourceInput.policyRef).or (missingSuitabilityBlockingResult sourceInput)) _ :=
    (temporal_guarded ..).or fun _ => sourceGuard_guarded.or fun _ => workflow
  refine failsClosed_twice
    ((missingSuitabilityDetection sourceInput policy
      (missingSuitability sourceInput policy).sourceRefs).created
        (missingSuitabilityScore sourceInput policy))
    (missingSuitability sourceInput policy).Material rfl sources ?_ ?_ ?_
  · rintro ⟨-, ⟨-, present, -⟩, published, ⟨status, signOff⟩, opened, blocked, blockers⟩
    obtain ⟨asOfDate, evaluationStatus, openCount, blockedCount, signOffStatus, signOffBlockers,
      publication, ref, evaluatedAtUtc, allowed, scope⟩ := sourceInput
    obtain ⟨source, rfl⟩ := Option.isSome_iff_exists.mp (present ref List.mem_cons_self)
    obtain ⟨evaluationStatus, rfl⟩ := Option.isSome_iff_exists.mp status
    obtain ⟨signOffStatus, rfl⟩ := Option.isSome_iff_exists.mp signOff
    obtain ⟨openCount, rfl⟩ := Option.isSome_iff_exists.mp opened
    obtain ⟨blockedCount, rfl⟩ := Option.isSome_iff_exists.mp blocked
    obtain ⟨signOffBlockers, rfl⟩ := Option.isSome_iff_exists.mp blockers
    have counts : validate [countCheck openCount "open_requirement_count",
        countCheck blockedCount "blocked_requirement_count",
        countCheck signOffBlockers "sign_off_blocker_count"] = .ok ⟨⟩ ↔
          0 ≤ openCount ∧ 0 ≤ blockedCount ∧ 0 ≤ signOffBlockers := by
      simp [validate_eq_ok, countCheck_passes]
    refine (Screens.checked counts fun _ => .branch
      (belowMateriality_refuses .missingSuitabilityContext) .goes).mono ?_ ?_
    · simp [ValuesValid]
    · rw [and_true]
      refine and_congr (by simp [ValuesValid]) ?_
      simp only [Material, Option.mem_some_iff, exists_eq_left', published, true_and,
        missingSuitabilityReviewRequiredFromWorkflow, Bool.or_eq_true, List.contains_iff_mem,
        decide_eq_true_eq, or_assoc]
  · rw [sourcesReady_after_temporal]
    refine guard_implied ?_
    rintro ⟨published, status, givenStatus, signOff, givenSignOff, opened, givenOpened, blocked,
      givenBlocked, blockers, givenBlockers, -⟩
    refine ⟨published, ?_⟩
    simp [Option.mem_def.mp givenStatus, Option.mem_def.mp givenSignOff,
      Option.mem_def.mp givenOpened, Option.mem_def.mp givenBlocked,
      Option.mem_def.mp givenBlockers]
  · exact fun result returned => Detection.created_returns ⟨rfl, rfl, rfl, rfl⟩ returned

theorem highVolatility_failsClosed (sourceInput : HighVolatilitySignalInput)
    (policy : HighVolatilitySignalPolicy) : (highVolatility sourceInput policy).FailsClosed := by
  have sources : Guarded Refusal (highVolatilityBlockingPosture sourceInput)
      (sourceInput.entitlementAllowed = true ∧
        (∀ own ∈ [sourceInput.riskRef], own.isSome = true) ∧
          TemporallySound sourceInput.asOfDate sourceInput.evaluatedAtUtc
            (available [sourceInput.riskRef]) ∧
          AllCurrent (available [sourceInput.riskRef]) ∧
            ReadsAs sourceInput.riskSupportabilityState "ready") :=
    riskSource_guarded
  refine failsClosed
    ((highVolatilityDetection sourceInput policy
      (highVolatility sourceInput policy).sourceRefs).created
        (highVolatilityScore sourceInput policy))
    (∃ volatility ∈ sourceInput.sourceReportedVolatility,
      policy.val.volatilityThreshold.value ≤ volatility.value) rfl sources ?_ ?_ ?_
  · rintro ⟨-, present, -⟩
    exact highVolatility_values sourceInput policy present
  · rw [sourcesReady_iff]
    simp only [and_assoc]
    exact Iff.rfl
  · exact fun result returned => Detection.created_returns ⟨rfl, rfl, rfl, rfl⟩ returned

theorem drawdownReview_failsClosed (sourceInput : DrawdownReviewSignalInput)
    (policy : DrawdownReviewSignalPolicy) : (drawdownReview sourceInput policy).FailsClosed := by
  refine failsClosed (drawdownReviewCandidate sourceInput policy)
    (∃ maxDrawdown ∈ sourceInput.sourceReportedMaxDrawdown,
      maxDrawdown.value ≤ policy.val.maxDrawdownThreshold.value)
    (drawdownReview_runs sourceInput policy) riskSource_guarded ?_ ?_ ?_
  · intro _
    exact drawdownReview_values sourceInput policy
  · rw [sourcesReady_iff]
    simp only [and_assoc]
    exact Iff.rfl
  · intro result returned
    unfold drawdownReviewCandidate at returned
    cases given : sourceInput.sourceReportedMaxDrawdown with
    | none =>
        rw [given] at returned
        cases returned
    | some maxDrawdown =>
        rw [given] at returned
        exact Detection.created_returns ⟨rfl, rfl, rfl, rfl⟩ returned

theorem bondMaturity_failsClosed (sourceInput : BondMaturitySignalInput)
    (policy : BondMaturitySignalPolicy) : (bondMaturity sourceInput policy).FailsClosed := by
  have sources : Guarded Refusal
      (sourceRefSupportabilityResult sourceInput (availableBondMaturitySourceRefs sourceInput)) _ :=
    (temporal_guarded ..).or fun _ =>
      denied_guarded (absent_guarded (bondMaturity sourceInput policy).requiredRefs rfl
        (stale_guarded .free))
  refine failsClosed (bondMaturityCandidate sourceInput policy)
    (bondMaturity sourceInput policy).Material rfl sources
    (fun _ => bondMaturity_values sourceInput policy) ?_ ?_
  · rw [and_true, sourcesReady_after_temporal]
    exact Iff.rfl
  · intro result returned
    unfold bondMaturityCandidate at returned
    cases given : sourceInput.sourceReportedNextMaturityDate with
    | none =>
        rw [given] at returned
        cases returned
    | some maturityDate =>
        rw [given] at returned
        exact Detection.created_returns ⟨rfl, rfl, rfl, rfl⟩ returned

/-- Every family is screened by its own condition. -/
theorem evaluation_failsClosed (e : SignalEvaluation) : e.FailsClosed := by
  cases e with
  | highCash sourceInput policy => exact highCash_failsClosed sourceInput policy
  | concentration sourceInput policy => exact concentration_failsClosed sourceInput policy
  | underperformance sourceInput policy => exact underperformance_failsClosed sourceInput policy
  | mandateHealth sourceInput policy => exact mandateHealth_failsClosed sourceInput policy
  | highVolatility sourceInput policy => exact highVolatility_failsClosed sourceInput policy
  | drawdownReview sourceInput policy => exact drawdownReview_failsClosed sourceInput policy
  | bondMaturity sourceInput policy => exact bondMaturity_failsClosed sourceInput policy
  | lowIncome sourceInput policy => exact lowIncome_failsClosed sourceInput policy
  | mandateRestriction sourceInput policy => exact mandateRestriction_failsClosed sourceInput policy
  | missingBenchmark sourceInput policy => exact missingBenchmark_failsClosed sourceInput policy
  | missingRiskProfile sourceInput policy => exact missingRiskProfile_failsClosed sourceInput policy
  | missingSuitability sourceInput policy => exact missingSuitability_failsClosed sourceInput policy

end Families

/-! ## A profile that is overdue for review -/

def sampleOverdue : SignalEvaluation :=
  .missingRiskProfile
    { asOfDate := ⟨20454⟩
      riskProfileRef := some (sampleSignalRef 20454)
      riskProfileStatus := some "CURRENT"
      riskProfileEffectiveForAsOfDate := some true
      riskProfileReviewDue := some true
      evaluatedAtUtc := .utc 1767312000000000 }
    sampleVersionedPolicy

section Sample

local instance overdueSha256 : Sha256 := .zeros
local instance overdueCases : CaseMapping := asciiCases

theorem sampleOverdue_returns : sampleOverdue.evaluate.isOk = true := by
  decide +kernel

theorem sampleOverdue_eligible : sampleOverdue.Eligible where
  aware := rfl
  ready := by
    refine ⟨rfl, ?_, ?_, ?_⟩
    · intro ref member
      simp [sampleOverdue, requiredRefs] at member
      simp [member]
    · intro r member
      obtain rfl : r = sampleSignalRef 20454 := by
        simpa [sampleOverdue, sourceRefs, available] using member
      exact ⟨rfl, by decide⟩
    · intro r member
      obtain rfl : r = sampleSignalRef 20454 := by
        simpa [sampleOverdue, sourceRefs, available] using member
      rfl
  valid := trivial
  material := ⟨_, rfl, _, rfl, _, rfl, Or.inr (Or.inr rfl)⟩

end Sample

end SignalEvaluation

end LotusIdea

import LotusIdea.Signals.Evaluation

/-!
# Portfolio signals

`signal_evaluation.py`: high cash, concentration, underperformance and mandate
health.
-/

set_option autoImplicit false

namespace LotusIdea

open Guards

/-- What `_bounded_optional_weight` raises on. -/
def weightCheck (value : Decimal) (fieldName : String) : Bool × PyError :=
  (decide (value.value < 0 ∨ 1 < value.value),
    .valueError (fieldName ++ " must be between 0 and 1"))

/-- `str(value)` of a decimal that may be missing. -/
def optionalStr (value : Option Decimal) : String := value.elim "None" Decimal.str

/-- `abs(value)`. -/
def magnitude (value : Decimal) : ℚ := rounded |value.value|

/-- The references that are there, in their order. -/
def available (sourceRefs : List (Option SourceRef)) : List SourceRef := sourceRefs.filterMap id

/-! ## High cash -/

structure HighCashSignalPolicyFields where
  policyVersion : String
  cashWeightThreshold : Decimal
  deriving DecidableEq

/-- A threshold on a weight. -/
def thresholdCheck (threshold : Decimal) (fieldName : String) : Bool × PyError :=
  (decide (threshold.value ≤ 0 ∨ 1 < threshold.value),
    .valueError (fieldName ++ " must be greater than 0 and at most 1"))

def HighCashSignalPolicyFields.checks (p : HighCashSignalPolicyFields) : List (Bool × PyError) :=
  [requireText p.policyVersion "policy_version",
   thresholdCheck p.cashWeightThreshold "cash_weight_threshold"]

abbrev HighCashSignalPolicy := Checked HighCashSignalPolicyFields.checks

structure HighCashSignalInput where
  asOfDate : Date
  sourceReportedCashWeight : Option Decimal
  portfolioStateRef : Option SourceRef
  holdingsRef : Option SourceRef
  cashMovementRef : Option SourceRef
  cashflowProjectionRef : Option SourceRef
  evaluatedAtUtc : DateTime
  entitlementAllowed : Bool := true
  accessScope : Option ReviewAccessScope := none

section HighCash

variable (sourceInput : HighCashSignalInput) (policy : HighCashSignalPolicy)

/-- `_available_source_refs`. -/
def availableSourceRefs : List SourceRef :=
  available [sourceInput.portfolioStateRef, sourceInput.holdingsRef, sourceInput.cashMovementRef,
    sourceInput.cashflowProjectionRef]

/-- `_missing_required_sources`, by their number. -/
def missingRequiredSources : Nat := 4 - (availableSourceRefs sourceInput).length

def highCashSourceBlock (sourceRefs : List SourceRef) : Option SignalEvaluationResult :=
  if !sourceInput.entitlementAllowed then some (entitlementDenied .highCash)
  else if missingRequiredSources sourceInput ≠ 0 then
    some (missingSources .highCash (missingRequiredSources sourceInput))
  else
    (temporalBlockedSignalResult .highCash sourceInput.asOfDate sourceInput.evaluatedAtUtc
      sourceRefs).or
      (if anyStale sourceRefs then some (staleSource .highCash) else none)

def highCashMaterialityResult : Except PyError (Option SignalEvaluationResult) :=
  match sourceInput.sourceReportedCashWeight with
  | none => .ok (some (missingSources .highCash 1))
  | some weight => do
      validate [weightCheck weight "source_reported_cash_weight"]
      return if weight.value < policy.val.cashWeightThreshold.value then
        some (belowMateriality .highCash) else none

def highCashScore : Except PyError IdeaScore :=
  match sourceInput.sourceReportedCashWeight with
  | none => .error (.valueError "eligible high-cash scoring requires source_reported_cash_weight")
  | some weight => do
      validate [weightCheck weight "source_reported_cash_weight"]
      let materialityScore ←
        relativeThresholdScore weight.value policy.val.cashWeightThreshold.value
      evidenceScore (currentCompleteMaterialityInputs materialityScore) policy.val.policyVersion
        [.highCashRatio, .reviewRequired]

/-- `_stable_identity`, `_high_cash_signal` and `_high_cash_evidence_packet`. -/
def highCashDetection (sourceRefs : List SourceRef) : Detection where
  family := .highCash
  opportunityKind := "high_cash"
  asOfDate := sourceInput.asOfDate
  evaluatedAtUtc := sourceInput.evaluatedAtUtc
  accessScope := sourceInput.accessScope
  materialFacts :=
    [("cash_weight", .text (optionalStr sourceInput.sourceReportedCashWeight)),
     ("policy_version", .text policy.val.policyVersion)]
  sourceRefs := sourceRefs
  signalReasons := [.highCashRatio, .cashSourceReady]
  evidenceReasons := [.highCashRatio, .cashSourceReady, .reviewRequired]
  reviewPosture := .advisorReviewRequired

def evaluateHighCashSignal [Sha256] : Evaluation := do
  validateEvaluationTime sourceInput.evaluatedAtUtc
  let sourceRefs := availableSourceRefs sourceInput
  settle (highCashSourceBlock sourceInput sourceRefs) do
    let materiality ← highCashMaterialityResult sourceInput policy
    settle materiality
      ((highCashDetection sourceInput policy sourceRefs).created
        (highCashScore sourceInput policy))

end HighCash

/-! ## Concentration -/

structure ConcentrationRiskSignalPolicyFields where
  policyVersion : String
  topPositionWeightThreshold : Decimal
  topIssuerWeightThreshold : Decimal
  deriving DecidableEq

def ConcentrationRiskSignalPolicyFields.checks (p : ConcentrationRiskSignalPolicyFields) :
    List (Bool × PyError) :=
  [requireText p.policyVersion "policy_version",
   thresholdCheck p.topPositionWeightThreshold "top_position_weight_threshold",
   thresholdCheck p.topIssuerWeightThreshold "top_issuer_weight_threshold"]

abbrev ConcentrationRiskSignalPolicy := Checked ConcentrationRiskSignalPolicyFields.checks

structure ConcentrationRiskSignalInput where
  asOfDate : Date
  topPositionWeightCurrent : Option Decimal
  topIssuerWeightCurrent : Option Decimal
  issuerCoverageStatus : Option String
  concentrationRef : Option SourceRef
  evaluatedAtUtc : DateTime
  entitlementAllowed : Bool := true
  accessScope : Option ReviewAccessScope := none

section Concentration

variable (sourceInput : ConcentrationRiskSignalInput) (policy : ConcentrationRiskSignalPolicy)

def concentrationRiskPreSourceBlock : Option SignalEvaluationResult :=
  if !sourceInput.entitlementAllowed then some (entitlementDenied .concentration)
  else if sourceInput.concentrationRef.isNone then some (missingSources .concentration 1)
  else none

def concentrationRiskSourceRefs : List SourceRef := available [sourceInput.concentrationRef]

def concentrationRiskSourceBlock [CaseMapping] (sourceRefs : List SourceRef) :
    Option SignalEvaluationResult :=
  (temporalBlockedSignalResult .concentration sourceInput.asOfDate sourceInput.evaluatedAtUtc
    sourceRefs).or
    (if anyStale sourceRefs then some (staleSource .concentration)
    else
      match sourceInput.issuerCoverageStatus with
      | none => some (missingSources .concentration 1)
      | some status =>
          if CaseMapping.lower status ≠ "complete" then some (uncertifiedSource .concentration)
          else none)

def concentrationRiskBelowMateriality : Bool :=
  (sourceInput.topPositionWeightCurrent.all fun weight =>
    weight.value < policy.val.topPositionWeightThreshold.value) &&
  (sourceInput.topIssuerWeightCurrent.all fun weight =>
    weight.value < policy.val.topIssuerWeightThreshold.value)

/-- `_bounded_optional_weight`. -/
def optionalWeightCheck (value : Option Decimal) (fieldName : String) : List (Bool × PyError) :=
  value.elim [] fun weight => [weightCheck weight fieldName]

def concentrationRiskMaterialityResult : Except PyError (Option SignalEvaluationResult) := do
  validate
    (optionalWeightCheck sourceInput.topPositionWeightCurrent "top_position_weight_current" ++
      optionalWeightCheck sourceInput.topIssuerWeightCurrent "top_issuer_weight_current")
  return if sourceInput.topPositionWeightCurrent.isNone &&
      sourceInput.topIssuerWeightCurrent.isNone then some (missingSources .concentration 1)
    else if concentrationRiskBelowMateriality sourceInput policy then
      some (belowMateriality .concentration)
    else none

/-- The observed weights that reach their thresholds. -/
def concentrationBreaches : List (ℚ × ℚ) :=
  [(sourceInput.topPositionWeightCurrent, policy.val.topPositionWeightThreshold),
   (sourceInput.topIssuerWeightCurrent, policy.val.topIssuerWeightThreshold)].filterMap
    fun (observed, threshold) => observed.bind fun weight =>
      if threshold.value ≤ weight.value then some (weight.value, threshold.value) else none

def concentrationScore : Except PyError IdeaScore := do
  let materialityScores ← (concentrationBreaches sourceInput policy).mapM fun (observed, threshold) =>
    relativeThresholdScore observed threshold
  match materialityScores with
  | [] => .error (.valueError "eligible concentration scoring requires a threshold breach")
  | first :: rest =>
      evidenceScore (currentCompleteMaterialityInputs (rest.foldl max first))
        policy.val.policyVersion [.concentrationAttention, .reviewRequired]

/-- `_stable_concentration_identity` and the parts of the candidate. -/
def concentrationDetection (sourceRefs : List SourceRef) : Detection where
  family := .concentration
  opportunityKind := "concentration"
  asOfDate := sourceInput.asOfDate
  evaluatedAtUtc := sourceInput.evaluatedAtUtc
  accessScope := sourceInput.accessScope
  materialFacts :=
    [("issuer_coverage_status", sourceInput.issuerCoverageStatus.elim .absent .text),
     ("policy_version", .text policy.val.policyVersion),
     ("top_issuer_weight_current",
       sourceInput.topIssuerWeightCurrent.elim .absent fun weight => .text weight.str),
     ("top_position_weight_current",
       sourceInput.topPositionWeightCurrent.elim .absent fun weight => .text weight.str)]
  sourceRefs := sourceRefs
  signalReasons := [.concentrationAttention]
  evidenceReasons := [.concentrationAttention, .reviewRequired]
  reviewPosture := .advisorReviewRequired

def evaluateConcentrationRiskSignal [Sha256] [CaseMapping] : Evaluation := do
  validateEvaluationTime sourceInput.evaluatedAtUtc
  settle (concentrationRiskPreSourceBlock sourceInput) do
    let sourceRefs := concentrationRiskSourceRefs sourceInput
    settle (concentrationRiskSourceBlock sourceInput sourceRefs) do
      let materiality ← concentrationRiskMaterialityResult sourceInput policy
      settle materiality
        ((concentrationDetection sourceInput policy sourceRefs).created
          (concentrationScore sourceInput policy))

end Concentration

/-! ## Underperformance -/

structure UnderperformanceSignalPolicyFields where
  policyVersion : String
  activeReturnThreshold : Decimal
  deriving DecidableEq

def UnderperformanceSignalPolicyFields.checks (p : UnderperformanceSignalPolicyFields) :
    List (Bool × PyError) :=
  [requireText p.policyVersion "policy_version",
   (decide (p.activeReturnThreshold.value < -1 ∨ 0 ≤ p.activeReturnThreshold.value),
     .valueError "active_return_threshold must be between -1 and 0, excluding 0")]

abbrev UnderperformanceSignalPolicy := Checked UnderperformanceSignalPolicyFields.checks

structure UnderperformanceSignalInput where
  asOfDate : Date
  sourceReportedActiveReturn : Option Decimal
  benchmarkContextAvailable : Bool
  performanceRef : Option SourceRef
  evaluatedAtUtc : DateTime
  entitlementAllowed : Bool := true
  accessScope : Option ReviewAccessScope := none

section Underperformance

variable (sourceInput : UnderperformanceSignalInput) (policy : UnderperformanceSignalPolicy)

def underperformancePreSourceBlock : Option SignalEvaluationResult :=
  if !sourceInput.entitlementAllowed then some (entitlementDenied .underperformance)
  else if sourceInput.performanceRef.isNone then some (missingSources .underperformance 1)
  else none

def underperformanceSourceRefs : List SourceRef := available [sourceInput.performanceRef]

def underperformanceSourceBlock (sourceRefs : List SourceRef) : Option SignalEvaluationResult :=
  if sourceRefs.isEmpty then some (missingSources .underperformance 1)
  else
    (temporalBlockedSignalResult .underperformance sourceInput.asOfDate sourceInput.evaluatedAtUtc
      sourceRefs).or
      (if anyStale sourceRefs then some (staleSource .underperformance)
      else if !sourceInput.benchmarkContextAvailable then
        some (blockedSignalResult .underperformance [.missingBenchmark] [.missingSource])
      else none)

def underperformanceMaterialityResult : Except PyError (Option SignalEvaluationResult) :=
  match sourceInput.sourceReportedActiveReturn with
  | none => .ok (some (missingSources .underperformance 1))
  | some activeReturn => do
      validate [(decide (activeReturn.value < -1 ∨ 1 < activeReturn.value),
        .valueError "source_reported_active_return must be between -1 and 1")]
      return if policy.val.activeReturnThreshold.value < activeReturn.value then
        some (belowMateriality .underperformance) else none

def underperformanceScore : Except PyError IdeaScore :=
  match sourceInput.sourceReportedActiveReturn with
  | none =>
      .error (.valueError
        "eligible underperformance scoring requires source_reported_active_return")
  | some activeReturn => do
      let materialityScore ← relativeThresholdScore (magnitude activeReturn)
        (magnitude policy.val.activeReturnThreshold)
      evidenceScore (currentCompleteMaterialityInputs materialityScore) policy.val.policyVersion
        [.underperformanceAttention, .reviewRequired]

/-- `_stable_underperformance_identity` and the parts of the candidate. -/
def underperformanceDetection (sourceRefs : List SourceRef) : Detection where
  family := .underperformance
  opportunityKind := "underperformance"
  asOfDate := sourceInput.asOfDate
  evaluatedAtUtc := sourceInput.evaluatedAtUtc
  accessScope := sourceInput.accessScope
  materialFacts :=
    [("active_return", .text (optionalStr sourceInput.sourceReportedActiveReturn)),
     ("benchmark_context_available", .flag sourceInput.benchmarkContextAvailable),
     ("policy_version", .text policy.val.policyVersion)]
  sourceRefs := sourceRefs
  signalReasons := [.underperformanceAttention]
  evidenceReasons := [.underperformanceAttention, .reviewRequired]
  reviewPosture := .advisorReviewRequired

def evaluateUnderperformanceSignal [Sha256] : Evaluation := do
  validateEvaluationTime sourceInput.evaluatedAtUtc
  settle (underperformancePreSourceBlock sourceInput) do
    let sourceRefs := underperformanceSourceRefs sourceInput
    settle (underperformanceSourceBlock sourceInput sourceRefs) do
      let materiality ← underperformanceMaterialityResult sourceInput policy
      settle materiality
        ((underperformanceDetection sourceInput policy sourceRefs).created
          (underperformanceScore sourceInput policy))

end Underperformance

/-! ## Mandate health -/

structure MandateHealthSignalPolicyFields where
  policyVersion : String
  minimumWorkflowDecisionCount : Int
  minimumLineageEdgeCount : Int
  deriving DecidableEq

/-- A count that must not be negative. -/
def countCheck (count : Int) (fieldName : String) : Bool × PyError :=
  (decide (count < 0), .valueError (fieldName ++ " must be non-negative"))

def MandateHealthSignalPolicyFields.checks (p : MandateHealthSignalPolicyFields) :
    List (Bool × PyError) :=
  [requireText p.policyVersion "policy_version",
   countCheck p.minimumWorkflowDecisionCount "minimum_workflow_decision_count",
   countCheck p.minimumLineageEdgeCount "minimum_lineage_edge_count"]

abbrev MandateHealthSignalPolicy := Checked MandateHealthSignalPolicyFields.checks

structure MandateHealthSignalInput where
  asOfDate : Date
  workflowDecisionCount : Option Int
  lineageEdgeCount : Option Int
  manageSupportabilityState : Option String
  portfolioScopeConfirmed : Bool
  actionRegisterRef : Option SourceRef
  evaluatedAtUtc : DateTime
  mandatePerformanceHealthRef : Option SourceRef := none
  mandateRiskHealthRef : Option SourceRef := none
  entitlementAllowed : Bool := true
  accessScope : Option ReviewAccessScope := none

section MandateHealth

variable (sourceInput : MandateHealthSignalInput) (policy : MandateHealthSignalPolicy)

def mandateHealthPreSourceBlock : Option SignalEvaluationResult :=
  if !sourceInput.entitlementAllowed then some (entitlementDenied .allocationDrift)
  else if sourceInput.actionRegisterRef.isNone then some (missingSources .allocationDrift 1)
  else none

def mandateHealthSourceRefs : List SourceRef :=
  available [sourceInput.actionRegisterRef, sourceInput.mandatePerformanceHealthRef,
    sourceInput.mandateRiskHealthRef]

def mandateHealthSourceBlock [CaseMapping] (sourceRefs : List SourceRef) :
    Option SignalEvaluationResult :=
  (temporalBlockedSignalResult .allocationDrift sourceInput.asOfDate sourceInput.evaluatedAtUtc
    sourceRefs).or
    (if anyStale sourceRefs then some (staleSource .allocationDrift)
    else if !sourceInput.portfolioScopeConfirmed then some (missingSources .allocationDrift 1)
    else
      match sourceInput.manageSupportabilityState with
      | none => some (missingSources .allocationDrift 1)
      | some state =>
          if CaseMapping.lower state ≠ "ready" then some (uncertifiedSource .allocationDrift)
          else none)

def mandateHealthMaterialityResult : Except PyError (Option SignalEvaluationResult) :=
  match sourceInput.workflowDecisionCount, sourceInput.lineageEdgeCount with
  | some workflowCount, some lineageCount => do
      validate [countCheck workflowCount "workflow_decision_count",
        countCheck lineageCount "lineage_edge_count"]
      return if workflowCount < policy.val.minimumWorkflowDecisionCount ∨
          lineageCount < policy.val.minimumLineageEdgeCount then
        some (belowMateriality .allocationDrift) else none
  | _, _ => .ok (some (missingSources .allocationDrift 1))

def countThresholdScore (count threshold : Int) : Except PyError ℚ := do
  validate [(decide (count < 0 ∨ threshold < 0),
    .valueError "count and threshold must be non-negative")]
  if threshold = 0 then return if 0 < count then 100 else 50
  else relativeThresholdScore count threshold

def mandateHealthScore : Except PyError IdeaScore :=
  match sourceInput.workflowDecisionCount, sourceInput.lineageEdgeCount with
  | some workflowCount, some lineageCount => do
      let relevance ← countThresholdScore workflowCount policy.val.minimumWorkflowDecisionCount
      let quality ← countThresholdScore lineageCount policy.val.minimumLineageEdgeCount
      evidenceScore
        [(.relevance, relevance, 55 / 100), (.evidenceQuality, quality, 30 / 100),
         (.freshness, 100, 15 / 100)]
        policy.val.policyVersion [.allocationDriftAttention, .reviewRequired]
  | _, _ =>
      .error (.valueError
        "eligible mandate-health scoring requires workflow and lineage counts")

/-- `(status or "").strip()`. -/
def strippedStatus (status : Option String) : String := PyText.strip (status.getD "")

/-- `_stable_mandate_health_identity` and the parts of the candidate. -/
def mandateHealthDetection [CaseMapping] (sourceRefs : List SourceRef) : Detection where
  family := .allocationDrift
  opportunityKind := "allocation_drift"
  asOfDate := sourceInput.asOfDate
  evaluatedAtUtc := sourceInput.evaluatedAtUtc
  accessScope := sourceInput.accessScope
  materialFacts :=
    [("lineage_edge_count", sourceInput.lineageEdgeCount.elim .absent .count),
     ("manage_supportability_state",
       .text (CaseMapping.lower (strippedStatus sourceInput.manageSupportabilityState))),
     ("policy_version", .text policy.val.policyVersion),
     ("portfolio_scope_confirmed", .flag sourceInput.portfolioScopeConfirmed),
     ("workflow_decision_count", sourceInput.workflowDecisionCount.elim .absent .count)]
  sourceRefs := sourceRefs
  signalReasons := [.allocationDriftAttention]
  evidenceReasons := [.allocationDriftAttention, .reviewRequired]
  reviewPosture := .pmReviewRequired

def evaluateMandateHealthSignal [Sha256] [CaseMapping] : Evaluation := do
  validateEvaluationTime sourceInput.evaluatedAtUtc
  settle (mandateHealthPreSourceBlock sourceInput) do
    let sourceRefs := mandateHealthSourceRefs sourceInput
    settle (mandateHealthSourceBlock sourceInput sourceRefs) do
      let materiality ← mandateHealthMaterialityResult sourceInput policy
      settle materiality
        ((mandateHealthDetection sourceInput policy sourceRefs).created
          (mandateHealthScore sourceInput policy))

end MandateHealth

end LotusIdea

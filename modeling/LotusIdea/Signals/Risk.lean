import LotusIdea.Signals.Portfolio

/-!
# Risk signals

`high_volatility_evaluation.py` and `drawdown_review_evaluation.py`.  A
drawdown review belongs to the family of high volatility
(`DRAWDOWN_REVIEW_FAMILY_COMPATIBILITY`).
-/

set_option autoImplicit false

namespace LotusIdea

open Guards

/-- The state of a risk report that is not ready: missing, or uncertified. -/
def riskStateBlock [CaseMapping] (family : OpportunityFamily) (state : Option String) :
    Option SignalEvaluationResult :=
  match state with
  | none => some (missingSources family 1)
  | some state =>
      if CaseMapping.lower state ≠ "ready" then some (uncertifiedSource family) else none

/-! ## High volatility -/

structure HighVolatilitySignalPolicyFields where
  policyVersion : String
  volatilityThreshold : Decimal
  deriving DecidableEq

def HighVolatilitySignalPolicyFields.checks (p : HighVolatilitySignalPolicyFields) :
    List (Bool × PyError) :=
  [requireText p.policyVersion "policy_version",
   (decide (p.volatilityThreshold.value ≤ 0),
     .valueError "volatility_threshold must be positive")]

abbrev HighVolatilitySignalPolicy := Checked HighVolatilitySignalPolicyFields.checks

structure HighVolatilitySignalInput where
  asOfDate : Date
  sourceReportedVolatility : Option Decimal
  riskSupportabilityState : Option String
  riskRef : Option SourceRef
  evaluatedAtUtc : DateTime
  entitlementAllowed : Bool := true
  accessScope : Option ReviewAccessScope := none

section HighVolatility

variable (sourceInput : HighVolatilitySignalInput) (policy : HighVolatilitySignalPolicy)

/-- `_evaluate_blocking_posture`. -/
def highVolatilityBlockingPosture [CaseMapping] : Option SignalEvaluationResult :=
  if !sourceInput.entitlementAllowed then some (entitlementDenied .highVolatility)
  else
    match sourceInput.riskRef with
    | none => some (missingSources .highVolatility 1)
    | some riskRef =>
        (temporalBlockedSignalResult .highVolatility sourceInput.asOfDate
          sourceInput.evaluatedAtUtc [riskRef]).or
          (if riskRef.val.freshness ≠ .current then some (staleSource .highVolatility)
          else riskStateBlock .highVolatility sourceInput.riskSupportabilityState)

/-- `_high_volatility_score`. -/
def highVolatilityScore : Except PyError IdeaScore :=
  match sourceInput.sourceReportedVolatility with
  | none =>
      .error (.valueError "eligible high-volatility scoring requires source_reported_volatility")
  | some volatility => do
      let materialityScore ←
        relativeThresholdScore volatility.value policy.val.volatilityThreshold.value
      evidenceScore (currentCompleteMaterialityInputs materialityScore) policy.val.policyVersion
        [.volatilityAttention, .reviewRequired]

/-- `_stable_high_volatility_identity` and the parts of the candidate. -/
def highVolatilityDetection (sourceRefs : List SourceRef) : Detection where
  family := .highVolatility
  opportunityKind := "high_volatility"
  asOfDate := sourceInput.asOfDate
  evaluatedAtUtc := sourceInput.evaluatedAtUtc
  accessScope := sourceInput.accessScope
  materialFacts :=
    [("policy_version", .text policy.val.policyVersion),
     ("risk_supportability_state", sourceInput.riskSupportabilityState.elim .absent .text),
     ("source_reported_volatility", .text (optionalStr sourceInput.sourceReportedVolatility))]
  sourceRefs := sourceRefs
  signalReasons := [.volatilityAttention]
  evidenceReasons := [.volatilityAttention, .reviewRequired]
  reviewPosture := .advisorReviewRequired

def evaluateHighVolatilitySignal [Sha256] [CaseMapping] : Evaluation := do
  validateEvaluationTime sourceInput.evaluatedAtUtc
  settle (highVolatilityBlockingPosture sourceInput) do
    match sourceInput.sourceReportedVolatility with
    | none => return missingSources .highVolatility 1
    | some volatility =>
        validate [(decide (volatility.value < 0),
          .valueError "source_reported_volatility must be non-negative")]
        if volatility.value < policy.val.volatilityThreshold.value then
          return belowMateriality .highVolatility
        else
          match sourceInput.riskRef with
          | none => return missingSources .highVolatility 1
          | some riskRef =>
              (highVolatilityDetection sourceInput policy [riskRef]).created
                (highVolatilityScore sourceInput policy)

end HighVolatility

/-! ## Drawdown review -/

structure DrawdownReviewSignalPolicyFields where
  policyVersion : String
  maxDrawdownThreshold : Decimal
  deriving DecidableEq

def DrawdownReviewSignalPolicyFields.checks (p : DrawdownReviewSignalPolicyFields) :
    List (Bool × PyError) :=
  [requireText p.policyVersion "policy_version",
   (decide (0 ≤ p.maxDrawdownThreshold.value),
     .valueError "max_drawdown_threshold must be negative")]

abbrev DrawdownReviewSignalPolicy := Checked DrawdownReviewSignalPolicyFields.checks

structure DrawdownReviewSignalInput where
  asOfDate : Date
  sourceReportedMaxDrawdown : Option Decimal
  riskSupportabilityState : Option String
  riskRef : Option SourceRef
  evaluatedAtUtc : DateTime
  entitlementAllowed : Bool := true
  accessScope : Option ReviewAccessScope := none

section DrawdownReview

variable (sourceInput : DrawdownReviewSignalInput) (policy : DrawdownReviewSignalPolicy)

/-- `_drawdown_review_source_refs_or_block`. -/
def drawdownReviewSourceRefsOrBlock [CaseMapping] :
    SignalEvaluationResult ⊕ List SourceRef :=
  if !sourceInput.entitlementAllowed then .inl (entitlementDenied .highVolatility)
  else
    match sourceInput.riskRef with
    | none => .inl (missingSources .highVolatility 1)
    | some riskRef =>
        match temporalBlockedSignalResult .highVolatility sourceInput.asOfDate
          sourceInput.evaluatedAtUtc [riskRef] with
        | some result => .inl result
        | none =>
            if riskRef.val.freshness ≠ .current then .inl (staleSource .highVolatility)
            else
              match riskStateBlock .highVolatility sourceInput.riskSupportabilityState with
              | some result => .inl result
              | none => .inr [riskRef]

/-- `_drawdown_review_materiality_or_block`. -/
def drawdownReviewMaterialityOrBlock : Except PyError (SignalEvaluationResult ⊕ Decimal) :=
  match sourceInput.sourceReportedMaxDrawdown with
  | none => .ok (.inl (missingSources .highVolatility 1))
  | some maxDrawdown => do
      validate [(decide (0 < maxDrawdown.value),
        .valueError "source_reported_max_drawdown must be zero or negative")]
      return if policy.val.maxDrawdownThreshold.value < maxDrawdown.value then
        .inl (belowMateriality .highVolatility) else .inr maxDrawdown

def drawdownReviewScore (maxDrawdown : Decimal) : Except PyError IdeaScore := do
  let materialityScore ← relativeThresholdScore (magnitude maxDrawdown)
    (magnitude policy.val.maxDrawdownThreshold)
  evidenceScore (currentCompleteMaterialityInputs materialityScore) policy.val.policyVersion
    [.drawdownAttention, .reviewRequired]

/-- `_stable_drawdown_review_identity` and the parts of the candidate. -/
def drawdownReviewDetection (maxDrawdown : Decimal) (sourceRefs : List SourceRef) :
    Detection where
  family := .highVolatility
  opportunityKind := "drawdown_review"
  asOfDate := sourceInput.asOfDate
  evaluatedAtUtc := sourceInput.evaluatedAtUtc
  accessScope := sourceInput.accessScope
  materialFacts :=
    [("policy_version", .text policy.val.policyVersion),
     ("risk_supportability_state", sourceInput.riskSupportabilityState.elim .absent .text),
     ("source_reported_max_drawdown", .text maxDrawdown.str)]
  sourceRefs := sourceRefs
  signalReasons := [.drawdownAttention]
  evidenceReasons := [.drawdownAttention, .reviewRequired]
  reviewPosture := .advisorReviewRequired

def evaluateDrawdownReviewSignal [Sha256] [CaseMapping] : Evaluation := do
  validateEvaluationTime sourceInput.evaluatedAtUtc
  match drawdownReviewSourceRefsOrBlock sourceInput with
  | .inl result => return result
  | .inr sourceRefs =>
      match ← drawdownReviewMaterialityOrBlock sourceInput policy with
      | .inl result => return result
      | .inr maxDrawdown =>
          (drawdownReviewDetection sourceInput policy maxDrawdown sourceRefs).created
            (drawdownReviewScore policy maxDrawdown)

end DrawdownReview

end LotusIdea

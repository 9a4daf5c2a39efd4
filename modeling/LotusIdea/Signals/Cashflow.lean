import LotusIdea.Foundation.Calendar
import LotusIdea.Signals.Portfolio

/-!
# Cashflow signals

`bond_maturity_signal.py` and `low_income_signal.py`.
-/

set_option autoImplicit false

namespace LotusIdea

open Guards

/-! ## Bond maturity -/

/-- `day + timedelta(days=n)`, up to the last day of the calendar. -/
def addDays (day : Date) (n : Int) : Except PyError Date := do
  validate [(decide ¬ DateTime.DayInRange (day.days + n),
    .overflowError "date value out of range")]
  return ⟨day.days + n⟩

structure BondMaturitySignalPolicyFields where
  policyVersion : String
  maturityWindowDays : Int
  deriving DecidableEq

def BondMaturitySignalPolicyFields.checks (p : BondMaturitySignalPolicyFields) :
    List (Bool × PyError) :=
  [requireText p.policyVersion "policy_version",
   (decide (p.maturityWindowDays < 1 ∨ 366 < p.maturityWindowDays),
     .valueError "maturity_window_days must be between 1 and 366")]

abbrev BondMaturitySignalPolicy := Checked BondMaturitySignalPolicyFields.checks

structure BondMaturitySignalInput where
  asOfDate : Date
  sourceReportedNextMaturityDate : Option Date
  sourceReportedMaturingPositionCount : Option Int
  holdingsRef : Option SourceRef
  maturityFactRef : Option SourceRef
  evaluatedAtUtc : DateTime
  entitlementAllowed : Bool := true
  accessScope : Option ReviewAccessScope := none

section BondMaturity

variable (sourceInput : BondMaturitySignalInput) (policy : BondMaturitySignalPolicy)

/-- `_available_bond_maturity_source_refs`. -/
def availableBondMaturitySourceRefs : List SourceRef :=
  available [sourceInput.holdingsRef, sourceInput.maturityFactRef]

/-- `_source_ref_supportability_result`. -/
def sourceRefSupportabilityResult (sourceRefs : List SourceRef) :
    Option SignalEvaluationResult :=
  (temporalBlockedSignalResult .bondMaturity sourceInput.asOfDate sourceInput.evaluatedAtUtc
    sourceRefs).or
    (if !sourceInput.entitlementAllowed then some (entitlementDenied .bondMaturity)
    else if 2 - sourceRefs.length ≠ 0 then
      some (missingSources .bondMaturity (2 - sourceRefs.length))
    else if anyStale sourceRefs then some (staleSource .bondMaturity)
    else none)

/-- `_source_value_supportability_result`. -/
def sourceValueSupportabilityResult : Except PyError (Option SignalEvaluationResult) :=
  match sourceInput.sourceReportedMaturingPositionCount with
  | none => .ok (some (missingSources .bondMaturity 1))
  | some count => do
      validate [countCheck count "source_reported_maturing_position_count"]
      return if count = 0 then some (belowMateriality .bondMaturity) else none

/-- `_within_maturity_window`: the end of the window is computed only for a
date that is not past. -/
def withinMaturityWindow (asOfDate maturityDate : Date) (windowDays : Int) :
    Except PyError Bool := do
  if asOfDate.days ≤ maturityDate.days then
    let windowEnd ← addDays asOfDate windowDays
    return decide (maturityDate.days ≤ windowEnd.days)
  else return false

/-- `_bond_maturity_applicability_expiry`: the end of the maturity date in UTC. -/
def bondMaturityApplicabilityExpiry (maturityDate : Date) : Except PyError DateTime := do
  let next ← addDays maturityDate 1
  return .utc (next.days * 86400000000)

/-- `_bond_maturity_score`. -/
def bondMaturityScore (maturityDate : Date) : Except PyError IdeaScore :=
  match sourceInput.sourceReportedMaturingPositionCount with
  | none =>
      .error (.valueError
        "eligible bond-maturity scoring requires maturity date and position count")
  | some positionCount => do
      validate [(decide (positionCount < 1), .valueError
        "eligible bond-maturity scoring requires maturity date and position count")]
      let daysToMaturity := maturityDate.days - sourceInput.asOfDate.days
      let window := policy.val.maturityWindowDays
      let share := rounded (rounded (50 * (window - daysToMaturity : ℤ)) / window)
      let urgency ← quantize (rounded (50 + share))
      let materiality ← relativeThresholdScore positionCount 1
      evidenceScore
        [(.urgency, urgency, 55 / 100), (.materiality, materiality, 25 / 100),
         (.evidenceQuality, 100, 10 / 100), (.freshness, 100, 10 / 100)]
        policy.val.policyVersion [.maturityWindow, .reviewRequired]

/-- `_stable_bond_maturity_identity` and the parts of the candidate. -/
def bondMaturityDetection (sourceRefs : List SourceRef) (expiresAtUtc : DateTime) :
    Detection where
  family := .bondMaturity
  opportunityKind := "bond_maturity"
  asOfDate := sourceInput.asOfDate
  evaluatedAtUtc := sourceInput.evaluatedAtUtc
  accessScope := sourceInput.accessScope
  materialFacts :=
    [("maturity_window_days", .count policy.val.maturityWindowDays),
     ("policy_version", .text policy.val.policyVersion),
     ("source_reported_maturing_position_count",
       sourceInput.sourceReportedMaturingPositionCount.elim .absent .count),
     ("source_reported_next_maturity_date",
       sourceInput.sourceReportedNextMaturityDate.elim .absent fun day => .text day.isoformat)]
  sourceRefs := sourceRefs
  signalReasons := [.maturityWindow]
  evidenceReasons := [.maturityWindow, .reviewRequired]
  reviewPosture := .advisorReviewRequired
  applicabilityExpiresAtUtc := some expiresAtUtc

/-- `_not_eligible_expired`. -/
def notEligibleExpired : SignalEvaluationResult :=
  { outcome := .notEligible
    family := .bondMaturity
    reasonCodes := [.opportunityNoLongerEligible] }

def evaluateBondMaturitySignal [Sha256] : Evaluation := do
  validateEvaluationTime sourceInput.evaluatedAtUtc
  let sourceRefs := availableBondMaturitySourceRefs sourceInput
  settle (sourceRefSupportabilityResult sourceInput sourceRefs) do
    let sourceValue ← sourceValueSupportabilityResult sourceInput
    settle sourceValue
      (match sourceInput.sourceReportedNextMaturityDate with
      | none => .ok (missingSources .bondMaturity 1)
      | some maturityDate => do
          if ← withinMaturityWindow sourceInput.asOfDate maturityDate
              policy.val.maturityWindowDays then
            let expiresAtUtc ← bondMaturityApplicabilityExpiry maturityDate
            if expiresAtUtc ≤ sourceInput.evaluatedAtUtc then return notEligibleExpired
            else
              (bondMaturityDetection sourceInput policy sourceRefs expiresAtUtc).created
                (bondMaturityScore sourceInput policy maturityDate)
          else return belowMateriality .bondMaturity)

end BondMaturity

/-! ## Low income -/

structure LowIncomeSignalPolicyFields where
  policyVersion : String
  projectedCumulativeCashflowThreshold : Decimal
  deriving DecidableEq

def LowIncomeSignalPolicyFields.checks (p : LowIncomeSignalPolicyFields) :
    List (Bool × PyError) :=
  [requireText p.policyVersion "policy_version",
   (decide (0 ≤ p.projectedCumulativeCashflowThreshold.value),
     .valueError "projected_cumulative_cashflow_threshold must be negative")]

abbrev LowIncomeSignalPolicy := Checked LowIncomeSignalPolicyFields.checks

structure LowIncomeSignalInput where
  asOfDate : Date
  sourceReportedMinProjectedCumulativeCashflow : Option Decimal
  cashMovementCount : Option Int
  cashMovementRef : Option SourceRef
  cashflowProjectionRef : Option SourceRef
  evaluatedAtUtc : DateTime
  entitlementAllowed : Bool := true
  accessScope : Option ReviewAccessScope := none

section LowIncome

variable (sourceInput : LowIncomeSignalInput) (policy : LowIncomeSignalPolicy)

/-- `_available_low_income_source_refs`. -/
def availableLowIncomeSourceRefs : List SourceRef :=
  available [sourceInput.cashMovementRef, sourceInput.cashflowProjectionRef]

/-- `_evaluate_blocking_posture`. -/
def lowIncomeBlockingPosture (sourceRefs : List SourceRef) : Option SignalEvaluationResult :=
  (temporalBlockedSignalResult .lowIncome sourceInput.asOfDate sourceInput.evaluatedAtUtc
    sourceRefs).or
    (if !sourceInput.entitlementAllowed then some (entitlementDenied .lowIncome)
    else if 2 - sourceRefs.length ≠ 0 then
      some (missingSources .lowIncome (2 - sourceRefs.length))
    else if anyStale sourceRefs then some (staleSource .lowIncome)
    else none)

/-- `_source_cashflow_materiality_result`. -/
def sourceCashflowMaterialityResult : Except PyError (Option SignalEvaluationResult) :=
  match sourceInput.cashMovementCount with
  | none => .ok (some (missingSources .lowIncome 1))
  | some count => do
      validate [countCheck count "cash_movement_count"]
      return match sourceInput.sourceReportedMinProjectedCumulativeCashflow with
        | none => some (missingSources .lowIncome 1)
        | some cashflow =>
            if policy.val.projectedCumulativeCashflowThreshold.value < cashflow.value then
              some (belowMateriality .lowIncome)
            else none

/-- `_low_income_score`. -/
def lowIncomeScore : Except PyError IdeaScore :=
  match sourceInput.sourceReportedMinProjectedCumulativeCashflow with
  | none =>
      .error (.valueError "eligible low-income scoring requires projected cumulative cashflow")
  | some cashflow => do
      let threshold := magnitude policy.val.projectedCumulativeCashflowThreshold
      validate [(decide (threshold = 0), .valueError
        "evidence-derived low-income scoring requires a negative threshold")]
      let materialityScore ← relativeThresholdScore (magnitude cashflow) threshold
      evidenceScore (currentCompleteMaterialityInputs materialityScore) policy.val.policyVersion
        [.incomeAttention, .reviewRequired]

/-- `_stable_low_income_identity` and the parts of the candidate. -/
def lowIncomeDetection (sourceRefs : List SourceRef) : Detection where
  family := .lowIncome
  opportunityKind := "low_income"
  asOfDate := sourceInput.asOfDate
  evaluatedAtUtc := sourceInput.evaluatedAtUtc
  accessScope := sourceInput.accessScope
  materialFacts :=
    [("cash_movement_count", sourceInput.cashMovementCount.elim .absent .count),
     ("policy_version", .text policy.val.policyVersion),
     ("source_reported_min_projected_cumulative_cashflow",
       .text (optionalStr sourceInput.sourceReportedMinProjectedCumulativeCashflow))]
  sourceRefs := sourceRefs
  signalReasons := [.incomeAttention]
  evidenceReasons := [.incomeAttention, .reviewRequired]
  reviewPosture := .advisorReviewRequired

def evaluateLowIncomeSignal [Sha256] : Evaluation := do
  validateEvaluationTime sourceInput.evaluatedAtUtc
  let sourceRefs := availableLowIncomeSourceRefs sourceInput
  settle (lowIncomeBlockingPosture sourceInput sourceRefs) do
    let materiality ← sourceCashflowMaterialityResult sourceInput policy
    settle materiality
      ((lowIncomeDetection sourceInput policy sourceRefs).created
        (lowIncomeScore sourceInput policy))

end LowIncome

end LotusIdea

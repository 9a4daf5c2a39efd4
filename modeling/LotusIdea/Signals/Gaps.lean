import LotusIdea.Signals.Portfolio

/-!
# Signals of missing context

`mandate_restriction_signal.py`, `missing_benchmark_signal.py`,
`missing_risk_profile_signal.py` and `missing_suitability_signal.py`.
-/

set_option autoImplicit false

namespace LotusIdea

open Guards

/-- A policy that is its version only. -/
structure VersionedSignalPolicyFields where
  policyVersion : String
  deriving DecidableEq

def VersionedSignalPolicyFields.checks (p : VersionedSignalPolicyFields) :
    List (Bool × PyError) :=
  [requireText p.policyVersion "policy_version"]

/-- `(status or "").strip().upper()`. -/
def upperStatus [CaseMapping] (status : Option String) : String :=
  CaseMapping.upper (strippedStatus status)

/-- The temporal guard on the one source, which comes before the entitlement. -/
def temporalGuard (family : OpportunityFamily) (asOfDate : Date) (evaluatedAtUtc : DateTime)
    (sourceRef : Option SourceRef) : Option SignalEvaluationResult :=
  temporalBlockedSignalResult family asOfDate evaluatedAtUtc (available [sourceRef])

/-- Entitlement, presence and freshness of the one source. -/
def sourceGuard (family : OpportunityFamily) (entitlementAllowed : Bool)
    (sourceRef : Option SourceRef) : Option SignalEvaluationResult :=
  if !entitlementAllowed then some (entitlementDenied family)
  else
    match sourceRef with
    | none => some (missingSources family 1)
    | some source => if source.val.freshness ≠ .current then some (staleSource family) else none

/-! ## Mandate restriction -/

def actionableRestrictionStatuses : List String :=
  ["BLOCKED", "BREACHED", "REVIEW_REQUIRED", "RESTRICTION_CHANGED", "POLICY_CHANGED",
   "PENDING_REVIEW"]

def nonActionableRestrictionStatuses : List String :=
  ["CLEAR", "CURRENT", "NO_RESTRICTION", "WITHIN_MANDATE"]

abbrev MandateRestrictionSignalPolicy := Checked VersionedSignalPolicyFields.checks

structure MandateRestrictionSignalInput where
  asOfDate : Date
  restrictionRef : Option SourceRef
  restrictionStatus : Option String
  changedSinceLastReview : Option Bool
  actionabilityBlocked : Option Bool
  evaluatedAtUtc : DateTime
  entitlementAllowed : Bool := true
  accessScope : Option ReviewAccessScope := none

/-- `_restriction_review_required`. -/
def restrictionReviewRequired [CaseMapping] (status : String) (changed blocked : Bool) : Bool :=
  let normalizedStatus := CaseMapping.upper status
  if nonActionableRestrictionStatuses.contains normalizedStatus then changed || blocked
  else actionableRestrictionStatuses.contains normalizedStatus || changed || blocked

section MandateRestriction

variable (sourceInput : MandateRestrictionSignalInput) (policy : MandateRestrictionSignalPolicy)

/-- `_blocking_result`. -/
def mandateRestrictionBlockingResult : Option SignalEvaluationResult :=
  (sourceGuard .mandateRestriction sourceInput.entitlementAllowed sourceInput.restrictionRef).or
    (if sourceInput.restrictionStatus.isNone || sourceInput.changedSinceLastReview.isNone ||
        sourceInput.actionabilityBlocked.isNone then some (missingSources .mandateRestriction 1)
    else none)

def restrictionRelevance (status : String) : ℚ :=
  if status = "BREACHED" then 100
  else if status = "BLOCKED" then 95
  else if status = "POLICY_CHANGED" then 85
  else if status = "RESTRICTION_CHANGED" then 85
  else if status = "REVIEW_REQUIRED" then 75
  else if status = "PENDING_REVIEW" then 70
  else 65

def restrictionUrgency (status : String) (changed blocked : Bool) : ℚ :=
  if blocked then 100
  else if ["BREACHED", "BLOCKED"].contains status then 95
  else if changed then 85
  else 70

def mandateRestrictionScore [CaseMapping] : Except PyError IdeaScore :=
  let status := upperStatus sourceInput.restrictionStatus
  evidenceScore
    [(.relevance, restrictionRelevance status, 55 / 100),
     (.urgency, restrictionUrgency status (sourceInput.changedSinceLastReview.getD false)
       (sourceInput.actionabilityBlocked.getD false), 25 / 100),
     (.evidenceQuality, 100, 10 / 100), (.freshness, 100, 10 / 100)]
    policy.val.policyVersion [.mandateRestrictionReview, .reviewRequired]

/-- `_stable_mandate_restriction_identity` and the parts of the candidate. -/
def mandateRestrictionDetection [CaseMapping] (sourceRefs : List SourceRef) : Detection where
  family := .mandateRestriction
  opportunityKind := "mandate_restriction"
  asOfDate := sourceInput.asOfDate
  evaluatedAtUtc := sourceInput.evaluatedAtUtc
  accessScope := sourceInput.accessScope
  materialFacts :=
    [("actionability_blocked", sourceInput.actionabilityBlocked.elim .absent .flag),
     ("changed_since_last_review", sourceInput.changedSinceLastReview.elim .absent .flag),
     ("policy_version", .text policy.val.policyVersion),
     ("restriction_status", .text (upperStatus sourceInput.restrictionStatus))]
  sourceRefs := sourceRefs
  signalReasons := [.mandateRestrictionReview]
  evidenceReasons := [.mandateRestrictionReview, .reviewRequired]
  reviewPosture := .complianceReviewRequired

/-- The evaluation past its guards, where an assertion that a value is there
cannot fail. -/
def evaluateMandateRestrictionSignal [Sha256] [CaseMapping] : Evaluation := do
  validateEvaluationTime sourceInput.evaluatedAtUtc
  settle (temporalGuard .mandateRestriction sourceInput.asOfDate sourceInput.evaluatedAtUtc
    sourceInput.restrictionRef) do
  settle (mandateRestrictionBlockingResult sourceInput) do
  match sourceInput.restrictionRef, sourceInput.restrictionStatus,
      sourceInput.changedSinceLastReview, sourceInput.actionabilityBlocked with
  | some restrictionRef, some status, some changed, some blocked =>
      if restrictionReviewRequired status changed blocked then
        (mandateRestrictionDetection sourceInput policy [restrictionRef]).created
          (mandateRestrictionScore sourceInput policy)
      else return belowMateriality .mandateRestriction
  | _, _, _, _ => throw .assertionError

end MandateRestriction

/-! ## Missing benchmark -/

abbrev MissingBenchmarkSignalPolicy := Checked VersionedSignalPolicyFields.checks

structure MissingBenchmarkSignalInput where
  asOfDate : Date
  benchmarkAssignmentRef : Option SourceRef
  benchmarkIdentityResolved : Bool
  assignmentEffectiveForAsOfDate : Bool
  assignmentStatus : Option String
  assignmentVersionPresent : Bool
  evaluatedAtUtc : DateTime
  entitlementAllowed : Bool := true
  accessScope : Option ReviewAccessScope := none

def benchmarkAssignmentDiagnostic [CaseMapping]
    (benchmarkIdentityResolved assignmentEffectiveForAsOfDate : Bool)
    (assignmentStatus : Option String) (assignmentVersionPresent : Bool) : String :=
  let normalizedStatus := CaseMapping.lower (strippedStatus assignmentStatus)
  if !benchmarkIdentityResolved then "core_benchmark_assignment_benchmark_identity_missing"
  else if !assignmentEffectiveForAsOfDate then
    "core_benchmark_assignment_not_effective_for_as_of_date"
  else if normalizedStatus = "" then "core_benchmark_assignment_status_missing"
  else if normalizedStatus ≠ "active" then "core_benchmark_assignment_" ++ normalizedStatus
  else if !assignmentVersionPresent then "core_benchmark_assignment_version_missing"
  else "core_benchmark_assignment_ready"

def benchmarkRelevance (diagnostic : String) : ℚ :=
  if diagnostic = "core_benchmark_assignment_benchmark_identity_missing" then 100
  else if diagnostic = "core_benchmark_assignment_not_effective_for_as_of_date" then 95
  else if diagnostic = "core_benchmark_assignment_status_missing" then 90
  else if diagnostic = "core_benchmark_assignment_version_missing" then 75
  else 80

section MissingBenchmark

variable (sourceInput : MissingBenchmarkSignalInput) (policy : MissingBenchmarkSignalPolicy)

def MissingBenchmarkSignalInput.diagnostic [CaseMapping] : String :=
  benchmarkAssignmentDiagnostic sourceInput.benchmarkIdentityResolved
    sourceInput.assignmentEffectiveForAsOfDate sourceInput.assignmentStatus
    sourceInput.assignmentVersionPresent

/-- `_missing_benchmark_non_candidate_result`. -/
def missingBenchmarkNonCandidateResult [CaseMapping] : Option SignalEvaluationResult :=
  if !sourceInput.entitlementAllowed then some (entitlementDenied .missingBenchmark)
  else
    match sourceInput.benchmarkAssignmentRef with
    | none => some (missingSources .missingBenchmark 1)
    | some ref =>
        (temporalBlockedSignalResult .missingBenchmark sourceInput.asOfDate
          sourceInput.evaluatedAtUtc [ref]).or
          (if ref.val.freshness ≠ .current then some (staleSource .missingBenchmark)
          else if sourceInput.diagnostic = "core_benchmark_assignment_ready" then
            some (belowMateriality .missingBenchmark)
          else none)

def missingBenchmarkScore [CaseMapping] : Except PyError IdeaScore :=
  evidenceScore
    [(.relevance, benchmarkRelevance sourceInput.diagnostic, 70 / 100),
     (.evidenceQuality, 100, 15 / 100), (.freshness, 100, 15 / 100)]
    policy.val.policyVersion [.missingBenchmark, .reviewRequired]

/-- `_stable_missing_benchmark_identity` and the parts of the candidate. -/
def missingBenchmarkDetection (sourceRefs : List SourceRef) : Detection where
  family := .missingBenchmark
  opportunityKind := "missing_benchmark"
  asOfDate := sourceInput.asOfDate
  evaluatedAtUtc := sourceInput.evaluatedAtUtc
  accessScope := sourceInput.accessScope
  materialFacts :=
    [("benchmark_identity_resolved", .flag sourceInput.benchmarkIdentityResolved),
     ("assignment_effective_for_as_of_date", .flag sourceInput.assignmentEffectiveForAsOfDate),
     ("assignment_status", sourceInput.assignmentStatus.elim .absent .text),
     ("assignment_version_present", .flag sourceInput.assignmentVersionPresent),
     ("policy_version", .text policy.val.policyVersion)]
  sourceRefs := sourceRefs
  signalReasons := [.missingBenchmark]
  evidenceReasons := [.missingBenchmark, .reviewRequired]
  reviewPosture := .advisorReviewRequired

def evaluateMissingBenchmarkSignal [Sha256] [CaseMapping] : Evaluation := do
  validateEvaluationTime sourceInput.evaluatedAtUtc
  settle (missingBenchmarkNonCandidateResult sourceInput) do
  match sourceInput.benchmarkAssignmentRef with
  | none =>
      throw (.valueError "benchmark_assignment_ref is required after blocker classification")
  | some ref =>
      (missingBenchmarkDetection sourceInput policy [ref]).created
        (missingBenchmarkScore sourceInput policy)

end MissingBenchmark

/-! ## Missing risk profile -/

def currentRiskProfileStatuses : List String := ["CURRENT", "COMPLETE", "ACTIVE"]

def missingRiskProfileStatuses : List String :=
  ["MISSING", "STALE", "EXPIRED", "BLOCKED", "PENDING_REVIEW"]

abbrev MissingRiskProfileSignalPolicy := Checked VersionedSignalPolicyFields.checks

structure MissingRiskProfileSignalInput where
  asOfDate : Date
  riskProfileRef : Option SourceRef
  riskProfileStatus : Option String
  riskProfileEffectiveForAsOfDate : Option Bool
  riskProfileReviewDue : Option Bool
  evaluatedAtUtc : DateTime
  entitlementAllowed : Bool := true
  accessScope : Option ReviewAccessScope := none

/-- `_risk_profile_is_current`. -/
def riskProfileIsCurrent [CaseMapping] (status : String) (effective reviewDue : Bool) : Bool :=
  currentRiskProfileStatuses.contains (CaseMapping.upper status) && effective && !reviewDue

/-- `_risk_profile_gap_is_reviewable`. -/
def riskProfileGapIsReviewable [CaseMapping] (status : String) (effective reviewDue : Bool) :
    Bool :=
  missingRiskProfileStatuses.contains (CaseMapping.upper status) || !effective || reviewDue

def riskProfileRelevance (status : String) : ℚ :=
  if status = "MISSING" then 100
  else if status = "EXPIRED" then 100
  else if status = "BLOCKED" then 95
  else if status = "STALE" then 90
  else if status = "PENDING_REVIEW" then 75
  else 70

section MissingRiskProfile

variable (sourceInput : MissingRiskProfileSignalInput) (policy : MissingRiskProfileSignalPolicy)

def missingRiskProfileBlockingResult : Option SignalEvaluationResult :=
  (sourceGuard .missingRiskProfile sourceInput.entitlementAllowed sourceInput.riskProfileRef).or
    (if sourceInput.riskProfileStatus.isNone ||
        sourceInput.riskProfileEffectiveForAsOfDate.isNone ||
        sourceInput.riskProfileReviewDue.isNone then some (missingSources .missingRiskProfile 1)
    else none)

def missingRiskProfileScore [CaseMapping] : Except PyError IdeaScore :=
  let byStatus := riskProfileRelevance (upperStatus sourceInput.riskProfileStatus)
  let byDate :=
    if sourceInput.riskProfileEffectiveForAsOfDate = some false then max byStatus 90
    else byStatus
  let relevance :=
    if sourceInput.riskProfileReviewDue.getD false then max byDate 70 else byDate
  evidenceScore
    [(.relevance, relevance, 70 / 100), (.evidenceQuality, 100, 15 / 100),
     (.freshness, 100, 15 / 100)]
    policy.val.policyVersion [.missingRiskProfile, .reviewRequired]

/-- `_stable_missing_risk_profile_identity` and the parts of the candidate. -/
def missingRiskProfileDetection [CaseMapping] (sourceRefs : List SourceRef) : Detection where
  family := .missingRiskProfile
  opportunityKind := "missing_risk_profile"
  asOfDate := sourceInput.asOfDate
  evaluatedAtUtc := sourceInput.evaluatedAtUtc
  accessScope := sourceInput.accessScope
  materialFacts :=
    [("policy_version", .text policy.val.policyVersion),
     ("risk_profile_effective_for_as_of_date",
       sourceInput.riskProfileEffectiveForAsOfDate.elim .absent .flag),
     ("risk_profile_review_due", sourceInput.riskProfileReviewDue.elim .absent .flag),
     ("risk_profile_status", .text (upperStatus sourceInput.riskProfileStatus))]
  sourceRefs := sourceRefs
  signalReasons := [.missingRiskProfile]
  evidenceReasons := [.missingRiskProfile, .reviewRequired]
  reviewPosture := .advisorReviewRequired

def evaluateMissingRiskProfileSignal [Sha256] [CaseMapping] : Evaluation := do
  validateEvaluationTime sourceInput.evaluatedAtUtc
  settle (temporalGuard .missingRiskProfile sourceInput.asOfDate sourceInput.evaluatedAtUtc
    sourceInput.riskProfileRef) do
  settle (missingRiskProfileBlockingResult sourceInput) do
  match sourceInput.riskProfileRef, sourceInput.riskProfileStatus,
      sourceInput.riskProfileEffectiveForAsOfDate, sourceInput.riskProfileReviewDue with
  | some riskProfileRef, some status, some effective, some reviewDue =>
      if riskProfileIsCurrent status effective reviewDue then
        return belowMateriality .missingRiskProfile
      else if !riskProfileGapIsReviewable status effective reviewDue then
        return missingSources .missingRiskProfile 1
      else
        (missingRiskProfileDetection sourceInput policy [riskProfileRef]).created
          (missingRiskProfileScore sourceInput policy)
  | _, _, _, _ => throw .assertionError

end MissingRiskProfile

/-! ## Missing suitability context -/

structure MissingSuitabilityContextSignalPolicyFields where
  policyVersion : String
  minimumOpenRequirementCount : Int
  deriving DecidableEq

def MissingSuitabilityContextSignalPolicyFields.checks
    (p : MissingSuitabilityContextSignalPolicyFields) : List (Bool × PyError) :=
  [requireText p.policyVersion "policy_version",
   countCheck p.minimumOpenRequirementCount "minimum_open_requirement_count"]

abbrev MissingSuitabilityContextSignalPolicy :=
  Checked MissingSuitabilityContextSignalPolicyFields.checks

structure MissingSuitabilityContextSignalInput where
  asOfDate : Date
  evaluationStatus : Option String
  openRequirementCount : Option Int
  blockedRequirementCount : Option Int
  signOffStatus : Option String
  signOffBlockerCount : Option Int
  clientReadyPublication : Option String
  policyRef : Option SourceRef
  evaluatedAtUtc : DateTime
  entitlementAllowed : Bool := true
  accessScope : Option ReviewAccessScope := none

def missingSuitabilityReviewRequiredFromWorkflow [CaseMapping] (evaluationStatus : String)
    (openRequirementCount blockedRequirementCount : Int) (signOffStatus : String)
    (signOffBlockerCount minimumOpenRequirementCount : Int) : Bool :=
  ["PENDING_REVIEW", "BLOCKED"].contains (CaseMapping.upper evaluationStatus) ||
    ["PENDING_REVIEW", "BLOCKED"].contains (CaseMapping.upper signOffStatus) ||
    decide (minimumOpenRequirementCount ≤ openRequirementCount) ||
    decide (0 < blockedRequirementCount) || decide (0 < signOffBlockerCount)

section MissingSuitability

variable (sourceInput : MissingSuitabilityContextSignalInput)
  (policy : MissingSuitabilityContextSignalPolicy)

def missingSuitabilityBlockingResult [CaseMapping] : Option SignalEvaluationResult :=
  (sourceGuard .missingSuitabilityContext sourceInput.entitlementAllowed
    sourceInput.policyRef).or
    (match sourceInput.clientReadyPublication with
    | none => some (missingSources .missingSuitabilityContext 1)
    | some publication =>
        if CaseMapping.upper publication ≠ "BLOCKED" then
          some (blockedSignalResult .missingSuitabilityContext [.reviewRequired]
            [.sourceUncertified])
        else if sourceInput.evaluationStatus.isNone || sourceInput.signOffStatus.isNone then
          some (missingSources .missingSuitabilityContext 1)
        else if sourceInput.openRequirementCount.isNone ||
            sourceInput.blockedRequirementCount.isNone ||
            sourceInput.signOffBlockerCount.isNone then
          some (missingSources .missingSuitabilityContext 1)
        else none)

def missingSuitabilityRelevance (openCount : Int) : Except PyError ℚ :=
  if policy.val.minimumOpenRequirementCount = 0 then .ok (if 0 < openCount then 100 else 50)
  else if policy.val.minimumOpenRequirementCount ≤ openCount then
    relativeThresholdScore openCount policy.val.minimumOpenRequirementCount
  else .ok 50

def missingSuitabilityUrgency [CaseMapping] (blockedCount signOffBlockers : Int) : ℚ :=
  if 0 < blockedCount ∨ 0 < signOffBlockers ∨
      "BLOCKED" ∈ [upperStatus sourceInput.evaluationStatus, upperStatus sourceInput.signOffStatus]
  then 100 else 75

def missingSuitabilityScore [CaseMapping] : Except PyError IdeaScore :=
  match sourceInput.openRequirementCount, sourceInput.blockedRequirementCount,
      sourceInput.signOffBlockerCount with
  | some openCount, some blockedCount, some signOffBlockers => do
      let relevance ← missingSuitabilityRelevance policy openCount
      evidenceScore
        [(.relevance, relevance, 50 / 100),
         (.urgency, missingSuitabilityUrgency sourceInput blockedCount signOffBlockers, 30 / 100),
         (.evidenceQuality, 100, 10 / 100), (.freshness, 100, 10 / 100)]
        policy.val.policyVersion [.suitabilityContextMissing, .reviewRequired]
  | _, _, _ =>
      .error (.valueError "eligible missing-suitability scoring requires requirement counts")

/-- `_stable_identity` and the parts of the candidate. -/
def missingSuitabilityDetection [CaseMapping] (sourceRefs : List SourceRef) : Detection where
  family := .missingSuitabilityContext
  opportunityKind := "missing_suitability_context"
  asOfDate := sourceInput.asOfDate
  evaluatedAtUtc := sourceInput.evaluatedAtUtc
  accessScope := sourceInput.accessScope
  materialFacts :=
    [("blocked_requirement_count", sourceInput.blockedRequirementCount.elim .absent .count),
     ("client_ready_publication", .text (upperStatus sourceInput.clientReadyPublication)),
     ("evaluation_status", .text (upperStatus sourceInput.evaluationStatus)),
     ("open_requirement_count", sourceInput.openRequirementCount.elim .absent .count),
     ("policy_version", .text policy.val.policyVersion),
     ("sign_off_blocker_count", sourceInput.signOffBlockerCount.elim .absent .count),
     ("sign_off_status", .text (upperStatus sourceInput.signOffStatus))]
  sourceRefs := sourceRefs
  signalReasons := [.suitabilityContextMissing]
  evidenceReasons := [.suitabilityContextMissing, .reviewRequired]
  reviewPosture := .complianceReviewRequired

def evaluateMissingSuitabilityContextSignal [Sha256] [CaseMapping] : Evaluation := do
  validateEvaluationTime sourceInput.evaluatedAtUtc
  settle (temporalGuard .missingSuitabilityContext sourceInput.asOfDate
    sourceInput.evaluatedAtUtc sourceInput.policyRef) do
  settle (missingSuitabilityBlockingResult sourceInput) do
  match sourceInput.policyRef, sourceInput.evaluationStatus, sourceInput.signOffStatus,
      sourceInput.openRequirementCount, sourceInput.blockedRequirementCount,
      sourceInput.signOffBlockerCount with
  | some policyRef, some evaluationStatus, some signOffStatus, some openCount, some blockedCount,
      some signOffBlockers =>
      validate [countCheck openCount "open_requirement_count",
        countCheck blockedCount "blocked_requirement_count",
        countCheck signOffBlockers "sign_off_blocker_count"]
      if missingSuitabilityReviewRequiredFromWorkflow evaluationStatus openCount blockedCount
          signOffStatus signOffBlockers policy.val.minimumOpenRequirementCount then
        (missingSuitabilityDetection sourceInput policy [policyRef]).created
          (missingSuitabilityScore sourceInput policy)
      else return belowMateriality .missingSuitabilityContext
  | _, _, _, _, _, _ => throw .assertionError

end MissingSuitability

end LotusIdea

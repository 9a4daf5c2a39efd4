import LotusIdea.Domain.Enumerations
import LotusIdea.Domain.OutcomeHistory
import LotusIdea.Domain.RankingMetrics
import LotusIdea.Foundation.Grouping
import LotusIdea.Repository.Runs

/-!
# Opportunity effectiveness

`opportunity_effectiveness.py` and `opportunity_effectiveness_family.py`: the funnel of
a cohort of candidates, in all and for each opportunity family.  The facts of the
ranking and the digest of the report are left out.
-/

set_option autoImplicit false

namespace LotusIdea

inductive EffectivenessError where
  | scopeError (message : String)
  | boundExceeded (message : String)
  | dataError (message : String)
  | valueError (message : String)
  /-- `decimal.InvalidOperation`. -/
  | invalidOperation
  deriving DecidableEq, Repr

/-- The first check that fails raises. -/
def requireAll (checks : List (Bool × EffectivenessError)) : Except EffectivenessError Unit :=
  (firstFailure checks).elim (.ok ()) .error

theorem requireAll_eq_ok {checks : List (Bool × EffectivenessError)} :
    requireAll checks = .ok () ↔ firstFailure checks = none := by
  unfold requireAll
  cases firstFailure checks <;> simp

def maxEffectivenessOpportunities : Int := 10000

/-- `Counter`: the counted values, each as often as it was counted. -/
abbrev Counter := List String

/-- `_count`. -/
def Counter.get (counts : Counter) (value : String) : ℕ := List.count value counts

/-! ## Rates -/

structure EffectivenessRate where
  numerator : ℕ
  denominator : ℕ
  value : Option ℚ
  deriving DecidableEq

/-- `rate`. -/
def rate (numerator denominator : ℕ) : Except EffectivenessError EffectivenessRate := do
  if denominator = 0 then return ⟨numerator, denominator, none⟩
  let steps := DecimalContext.halfEven (rounded (numerator / denominator) * 10 ^ 6)
  requireAll [(decide (10 ^ contextDigits ≤ steps.natAbs), .invalidOperation)]
  return ⟨numerator, denominator, some (steps / 10 ^ 6)⟩

/-- A rate of presentations, where presentations are measured. -/
def availableRate (available : Bool) (numerator denominator : ℕ) :
    Except EffectivenessError (Option EffectivenessRate) :=
  if available then some <$> rate numerator denominator else pure none

/-! ## The measures of a cohort -/

section Measures
variable (evaluatedAtUtc : DateTime) (record : CandidatePersistenceRecord)

/-- The decisions accepted by the evaluation time. -/
def measuredReviews : List GovernedReviewDecision :=
  record.val.reviewDecisions.filter fun decision => decision.val.acceptedAtUtc ≤ evaluatedAtUtc

def measuredFeedback : List GovernedFeedbackEvent :=
  record.val.feedbackEvents.filter fun event => event.val.acceptedAtUtc ≤ evaluatedAtUtc

def measuredIntents : List GovernedConversionIntent :=
  record.val.conversionIntents.filter fun intent => intent.val.acceptedAtUtc ≤ evaluatedAtUtc

/-- The outcomes of one intent accepted by the evaluation time. -/
def measuredOutcomes (intent : GovernedConversionIntent) : List GovernedConversionOutcome :=
  record.val.conversionOutcomes.filter fun outcome =>
    outcome.val.conversionIntentId = intent.val.intent.val.conversionIntentId ∧
      outcome.val.acceptedAtUtc ≤ evaluatedAtUtc

def acceptanceOrder (decision : GovernedReviewDecision) : ℤ ×ₗ String :=
  toLex (decision.val.acceptedAtUtc.instant, decision.val.reviewId)

/-- `_latest_review`. -/
def latestReview (reviews : List GovernedReviewDecision) : Option GovernedReviewDecision :=
  Sql.lastBy acceptanceOrder reviews

/-- `_first_approval`. -/
def firstApproval (reviews : List GovernedReviewDecision) : Option GovernedReviewDecision :=
  Sql.firstBy acceptanceOrder
    (reviews.filter fun decision => decision.val.action = .approveForConversion)

def firstIntent (intents : List GovernedConversionIntent) : Option GovernedConversionIntent :=
  Sql.firstBy (fun intent => intent.val.acceptedAtUtc.instant) intents

/-! ### What measuring a record checks -/

/-- `_validate_event_times`. -/
def validateEventTimes : Except EffectivenessError Unit :=
  let eventTimes :=
    (measuredReviews evaluatedAtUtc record).map (fun decision => decision.val.acceptedAtUtc) ++
    (measuredFeedback evaluatedAtUtc record).map (fun event => event.val.acceptedAtUtc) ++
    (measuredIntents evaluatedAtUtc record).map (fun intent => intent.val.acceptedAtUtc) ++
    record.val.versionHistory.map (fun entry => entry.val.recordedAtUtc)
  requireAll [(eventTimes.any fun eventTime =>
      decide (eventTime < record.val.candidate.val.createdAtUtc),
    .dataError "opportunity effectiveness event precedes candidate creation")]

/-- The first approval and the first intent, of a record that has both. -/
def approvedConversion : Option (GovernedReviewDecision × GovernedConversionIntent) := do
  let intent ← firstIntent (measuredIntents evaluatedAtUtc record)
  let approval ← firstApproval (measuredReviews evaluatedAtUtc record)
  return (approval, intent)

def validateApprovalOrder : Except EffectivenessError Unit :=
  requireAll [((approvedConversion evaluatedAtUtc record).any fun (approval, intent) =>
      decide (intent.val.acceptedAtUtc < approval.val.acceptedAtUtc),
    .dataError "conversion intent precedes its governed approval")]

/-- What `_measure_current_outcomes` checks of one intent. -/
def validateOutcomes (intent : GovernedConversionIntent) : Except EffectivenessError Unit :=
  let outcomes := measuredOutcomes evaluatedAtUtc record intent
  requireAll
    [(outcomes.any fun outcome => decide (outcome.val.acceptedAtUtc < intent.val.acceptedAtUtc),
      .dataError "conversion outcome precedes its conversion intent"),
     (!outcomes.isEmpty && (currentConversionOutcome outcomes).isNone,
      .dataError "opportunity effectiveness requires a policy-valid conversion outcome history")]

/-- The checks of one turn of the loop of `_effectiveness_measures`. -/
def validateMeasured : Except EffectivenessError Unit := do
  validateEventTimes evaluatedAtUtc record
  validateApprovalOrder evaluatedAtUtc record
  (measuredIntents evaluatedAtUtc record).forM (validateOutcomes evaluatedAtUtc record)

/-! ### What a record counts -/

/-- The action of the latest decision. -/
def latestAction : Option ReviewAction :=
  (latestReview (measuredReviews evaluatedAtUtc record)).map fun decision => decision.val.action

def isReviewed : Bool := (latestReview (measuredReviews evaluatedAtUtc record)).isSome

/-- The latest decision suppresses, or without a decision the candidate is suppressed. -/
def isSuppressed : Bool :=
  match latestReview (measuredReviews evaluatedAtUtc record) with
  | some decision => decision.val.action = .suppress
  | none => record.val.candidate.val.suppressionReason.isSome

def isDuplicateSuppressed : Bool :=
  match latestReview (measuredReviews evaluatedAtUtc record) with
  | some decision =>
      decision.val.action = .suppress && decision.val.suppressionReason == some .duplicate
  | none => record.val.candidate.val.suppressionReason == some .duplicate

def hasFeedback : Bool := !(measuredFeedback evaluatedAtUtc record).isEmpty

def isConverting : Bool := !(measuredIntents evaluatedAtUtc record).isEmpty

/-- The status of the current outcome, `not_reported` without one. -/
def outcomePosture (intent : GovernedConversionIntent) : String :=
  match currentConversionOutcome (measuredOutcomes evaluatedAtUtc record intent) with
  | none => "not_reported"
  | some current => current.val.outcome.val.status.value

def outcomePostures : Counter :=
  (measuredIntents evaluatedAtUtc record).map (outcomePosture evaluatedAtUtc record)

def recurrentEvents : ℕ :=
  record.val.versionHistory.countP fun entry =>
    decide (entry.val.changeReason = .recurrentCondition ∧ entry.val.recordedAtUtc ≤ evaluatedAtUtc)

/-- In microseconds. -/
def detectionToReview : Option ℤ :=
  (latestReview (measuredReviews evaluatedAtUtc record)).map fun decision =>
    decision.val.acceptedAtUtc.instant - record.val.candidate.val.createdAtUtc.instant

def approvalToConversion : Option ℤ :=
  (approvedConversion evaluatedAtUtc record).map fun (approval, intent) =>
    intent.val.acceptedAtUtc.instant - approval.val.acceptedAtUtc.instant

end Measures

structure EffectivenessMeasures where
  latestReviewActionCounts : Counter
  feedbackReasonCounts : Counter
  currentDownstreamOutcomeCounts : Counter
  reviewedOpportunityCount : ℕ
  feedbackOpportunityCount : ℕ
  conversionOpportunityCount : ℕ
  conversionIntentCount : ℕ
  suppressedOpportunityCount : ℕ
  duplicateSuppressedOpportunityCount : ℕ
  recurrentOpportunityCount : ℕ
  recurrentDetectionCount : ℕ
  detectionToReviewSeconds : List ℚ
  approvalToConversionSeconds : List ℚ
  cohortIntentIds : List String

/-- `_seconds`. -/
def seconds (microseconds : ℤ) : ℚ := microseconds / 10 ^ 6

def totalMeasures (records : List CandidatePersistenceRecord) (evaluatedAtUtc : DateTime) :
    EffectivenessMeasures where
  latestReviewActionCounts := records.flatMap fun record =>
    ((latestAction evaluatedAtUtc record).map ReviewAction.value).toList
  feedbackReasonCounts := records.flatMap fun record =>
    (measuredFeedback evaluatedAtUtc record).map fun event => event.val.feedback.val.reason.value
  currentDownstreamOutcomeCounts := records.flatMap (outcomePostures evaluatedAtUtc)
  reviewedOpportunityCount := records.countP (isReviewed evaluatedAtUtc)
  feedbackOpportunityCount := records.countP (hasFeedback evaluatedAtUtc)
  conversionOpportunityCount := records.countP (isConverting evaluatedAtUtc)
  conversionIntentCount :=
    (records.map fun record => (measuredIntents evaluatedAtUtc record).length).sum
  suppressedOpportunityCount := records.countP (isSuppressed evaluatedAtUtc)
  duplicateSuppressedOpportunityCount := records.countP (isDuplicateSuppressed evaluatedAtUtc)
  recurrentOpportunityCount :=
    records.countP fun record => decide (recurrentEvents evaluatedAtUtc record ≠ 0)
  recurrentDetectionCount := (records.map (recurrentEvents evaluatedAtUtc)).sum
  detectionToReviewSeconds :=
    (records.filterMap (detectionToReview evaluatedAtUtc)).map seconds
  approvalToConversionSeconds :=
    (records.filterMap (approvalToConversion evaluatedAtUtc)).map seconds
  cohortIntentIds := records.flatMap fun record =>
    (measuredIntents evaluatedAtUtc record).map fun intent =>
      intent.val.intent.val.conversionIntentId

/-- `_effectiveness_measures`: a record counts once its checks have passed, and no record
counts when the checks of one fail. -/
def effectivenessMeasures (records : List CandidatePersistenceRecord)
    (evaluatedAtUtc : DateTime) : Except EffectivenessError EffectivenessMeasures := do
  records.forM (validateMeasured evaluatedAtUtc)
  return totalMeasures records evaluatedAtUtc

/-! ## Presentations -/

/-- `presentation_evidence_hash`. -/
def presentationEvidenceHash (record : CandidatePersistenceRecord)
    (receipt : CandidatePresentationReceipt) : Except EffectivenessError String :=
  let matchingVersions := record.val.versionHistory.filter fun entry =>
    entry.val.materialVersion = receipt.val.candidateMaterialVersion ∧
      entry.val.evidenceVersion = receipt.val.candidateEvidenceVersion ∧
      entry.val.recordedAtUtc ≤ receipt.val.acceptedAtUtc
  match matchingVersions with
  | _ :: _ :: _ => .error (.dataError
      "presentation receipt resolves to multiple candidate versions")
  | [entry] => .ok entry.val.evidenceHash
  | [] =>
      let candidate := record.val.candidate.val
      if candidate.identity.val.materialVersion = receipt.val.candidateMaterialVersion ∧
          candidate.identity.val.evidenceVersion = receipt.val.candidateEvidenceVersion ∧
          candidate.updatedAtUtc ≤ receipt.val.acceptedAtUtc then
        .ok candidate.evidencePacket.val.lineageRef.val.contentHash
      else
        .error (.dataError "presentation receipt does not resolve to a durable candidate version")

/-- What a receipt adds to the three sets of `_presentation_measures`. -/
structure PresentedOpportunity where
  candidateId : String
  topRanked : Bool
  accepted : Bool

def recordsByCandidate (records : List CandidatePersistenceRecord) :
    Dict String CandidatePersistenceRecord :=
  records.foldl
    (fun filled record => filled.set record.val.candidate.val.candidateId record) Dict.empty

/-- One turn of the loop of `_presentation_measures`; `none` is `continue`. -/
def presentedOpportunity (records : Dict String CandidatePersistenceRecord)
    (evaluatedAtUtc : DateTime) (receipt : CandidatePresentationReceipt) :
    Except EffectivenessError (Option PresentedOpportunity) :=
  match records.get? receipt.val.candidateId with
  | none => .ok none
  | some record =>
      if evaluatedAtUtc < receipt.val.acceptedAtUtc then .ok none
      else if record.val.candidate.val.accessScope.all fun scope =>
          decide (receipt.val.tenantId ≠ scope.val.tenantId) then
        .error (.dataError "presentation receipt tenant does not match its cohort candidate")
      else do
        let evidenceHash ← presentationEvidenceHash record receipt
        return some
          { candidateId := receipt.val.candidateId
            topRanked := receipt.val.rankAtPresentation = 1
            accepted := record.val.reviewDecisions.any fun decision =>
              decision.val.action = .approveForConversion ∧
                decision.val.evidenceContentHash = evidenceHash ∧
                receipt.val.acceptedAtUtc ≤ decision.val.acceptedAtUtc ∧
                decision.val.acceptedAtUtc ≤ evaluatedAtUtc }

structure PresentationMeasures where
  presentedOpportunityCount : ℕ
  topRankedPresentedOpportunityCount : ℕ
  topRankedAcceptedOpportunityCount : ℕ

/-- The number of candidates named. -/
def distinctCandidates (presented : List PresentedOpportunity) : ℕ :=
  (presented.map fun item => item.candidateId).dedup.length

/-- `_presentation_measures`. -/
def presentationMeasures (receipts : List CandidatePresentationReceipt)
    (records : List CandidatePersistenceRecord) (evaluatedAtUtc : DateTime) :
    Except EffectivenessError PresentationMeasures := do
  let turns ← receipts.mapM (presentedOpportunity (recordsByCandidate records) evaluatedAtUtc)
  let presented := turns.reduceOption
  let topRanked := presented.filter fun item => item.topRanked
  return {
    presentedOpportunityCount := distinctCandidates presented
    topRankedPresentedOpportunityCount := distinctCandidates topRanked
    topRankedAcceptedOpportunityCount :=
      distinctCandidates (topRanked.filter fun item => item.accepted) }

/-! ## The summary -/

structure OpportunityFamilyEffectivenessRepositorySummary where
  family : String
  generatedOpportunityCount : ℕ
  presentedOpportunityCount : ℕ
  reviewedOpportunityCount : ℕ
  approvedOpportunityCount : ℕ
  rejectedOpportunityCount : ℕ
  suppressedOpportunityCount : ℕ
  duplicateSuppressedOpportunityCount : ℕ
  feedbackOpportunityCount : ℕ
  conversionOpportunityCount : ℕ
  conversionIntentCount : ℕ
  downstreamAcceptedCount : ℕ
  downstreamRejectedCount : ℕ
  downstreamFailedCount : ℕ
  downstreamUncertainCount : ℕ

structure OpportunityEffectivenessRepositorySummary where
  generatedOpportunityCount : ℕ
  reviewedOpportunityCount : ℕ
  feedbackOpportunityCount : ℕ
  conversionOpportunityCount : ℕ
  conversionIntentCount : ℕ
  staleEvidenceOpportunityCount : ℕ
  unavailableEvidenceOpportunityCount : ℕ
  unsupportedEvidenceOpportunityCount : ℕ
  suppressedOpportunityCount : ℕ
  duplicateSuppressedOpportunityCount : ℕ
  recurrentOpportunityCount : ℕ
  recurrentDetectionCount : ℕ
  reconciledSubmissionCount : ℕ
  presentedOpportunityCount : ℕ
  topRankedPresentedOpportunityCount : ℕ
  topRankedAcceptedOpportunityCount : ℕ
  familyEffectiveness : List OpportunityFamilyEffectivenessRepositorySummary
  familyCounts : Counter
  scoreBandCounts : Counter
  latestReviewActionCounts : Counter
  feedbackReasonCounts : Counter
  currentDownstreamOutcomeCounts : Counter
  downstreamSubmissionPostureCounts : Counter
  detectionToReviewSeconds : List ℚ
  approvalToConversionSeconds : List ℚ

/-- The accepted, rejected, failed and uncertain outcomes of `_downstream_outcome_counts`. -/
structure DownstreamOutcomeCounts where
  accepted : ℕ
  rejected : ℕ
  failed : ℕ
  uncertain : ℕ

def downstreamOutcomeCounts (counts : Counter) : DownstreamOutcomeCounts where
  accepted := counts.get "accepted" + counts.get "completed"
  rejected := counts.get "rejected"
  failed := counts.get "failed"
  uncertain := counts.get "not_reported" + counts.get "requested"

section Summary
variable [Sha256]

/-- `_downstream_submission_measures`. -/
def downstreamSubmissionMeasures (submissions : List DownstreamSubmissionRecord)
    (cohortIntentIds : List String) (evaluatedAtUtc : DateTime) : Counter × ℕ :=
  let measured := submissions.filter fun submission =>
    submission.val.resourceId ∈ cohortIntentIds ∧ submission.val.submittedAtUtc ≤ evaluatedAtUtc
  (measured.map fun submission => submission.val.status.value,
    measured.countP fun submission => submission.val.auditHistory.any fun entry =>
      decide (entry.val.action = .reconciled ∧ entry.val.occurredAtUtc ≤ evaluatedAtUtc))

/-- The families of the cohort in the order of their values. -/
def cohortFamilies (records : List CandidatePersistenceRecord) : List OpportunityFamily :=
  Sql.orderBy OpportunityFamily.value
    (records.map fun record => record.val.candidate.val.family).dedup

def familyRecords (records : List CandidatePersistenceRecord) (family : OpportunityFamily) :
    List CandidatePersistenceRecord :=
  records.filter fun record => record.val.candidate.val.family = family

/-- One turn of the loop of `_in_memory_family_effectiveness`. -/
def inMemoryFamilySummary (snapshot : IdeaRepository) (records : List CandidatePersistenceRecord)
    (evaluatedAtUtc : DateTime) (family : OpportunityFamily) :
    Except EffectivenessError OpportunityFamilyEffectivenessRepositorySummary := do
  let own := familyRecords records family
  let measures ← effectivenessMeasures own evaluatedAtUtc
  let presentation ← presentationMeasures snapshot.presentationReceipts.values own evaluatedAtUtc
  let outcomes := downstreamOutcomeCounts measures.currentDownstreamOutcomeCounts
  return {
    family := family.value
    generatedOpportunityCount := own.length
    presentedOpportunityCount := presentation.presentedOpportunityCount
    reviewedOpportunityCount := measures.reviewedOpportunityCount
    approvedOpportunityCount :=
      measures.latestReviewActionCounts.get ReviewAction.approveForConversion.value
    rejectedOpportunityCount := measures.latestReviewActionCounts.get ReviewAction.reject.value
    suppressedOpportunityCount := measures.suppressedOpportunityCount
    duplicateSuppressedOpportunityCount := measures.duplicateSuppressedOpportunityCount
    feedbackOpportunityCount := measures.feedbackOpportunityCount
    conversionOpportunityCount := measures.conversionOpportunityCount
    conversionIntentCount := measures.conversionIntentCount
    downstreamAcceptedCount := outcomes.accepted
    downstreamRejectedCount := outcomes.rejected
    downstreamFailedCount := outcomes.failed
    downstreamUncertainCount := outcomes.uncertain }

/-- `_score_band`. -/
def scoreBand (record : CandidatePersistenceRecord) : String :=
  record.val.candidate.val.score.elim "unranked" fun score =>
    (priorityBucketForScore score.val.score).value

def hasFreshness (freshness : List EvidenceFreshness) (record : CandidatePersistenceRecord) :
    Bool :=
  record.val.candidate.val.evidencePacket.val.sourceRefs.any fun source =>
    decide (source.val.freshness ∈ freshness)

/-- `_in_memory_repository_summary`. -/
def inMemoryRepositorySummary (snapshot : IdeaRepository)
    (records : List CandidatePersistenceRecord) (evaluatedAtUtc : DateTime) :
    Except EffectivenessError OpportunityEffectivenessRepositorySummary := do
  let measures ← effectivenessMeasures records evaluatedAtUtc
  let downstream := downstreamSubmissionMeasures snapshot.downstreamSubmissions.values
    measures.cohortIntentIds evaluatedAtUtc
  let presentation ←
    presentationMeasures snapshot.presentationReceipts.values records evaluatedAtUtc
  let families ←
    (cohortFamilies records).mapM (inMemoryFamilySummary snapshot records evaluatedAtUtc)
  return {
    generatedOpportunityCount := records.length
    reviewedOpportunityCount := measures.reviewedOpportunityCount
    feedbackOpportunityCount := measures.feedbackOpportunityCount
    conversionOpportunityCount := measures.conversionOpportunityCount
    conversionIntentCount := measures.conversionIntentCount
    staleEvidenceOpportunityCount := records.countP (hasFreshness [.stale, .expired])
    unavailableEvidenceOpportunityCount := records.countP (hasFreshness [.unavailable])
    unsupportedEvidenceOpportunityCount := records.countP fun record =>
      decide (record.val.candidate.val.evidencePacket.val.supportability ≠ .ready)
    suppressedOpportunityCount := measures.suppressedOpportunityCount
    duplicateSuppressedOpportunityCount := measures.duplicateSuppressedOpportunityCount
    recurrentOpportunityCount := measures.recurrentOpportunityCount
    recurrentDetectionCount := measures.recurrentDetectionCount
    reconciledSubmissionCount := downstream.2
    presentedOpportunityCount := presentation.presentedOpportunityCount
    topRankedPresentedOpportunityCount := presentation.topRankedPresentedOpportunityCount
    topRankedAcceptedOpportunityCount := presentation.topRankedAcceptedOpportunityCount
    familyEffectiveness := families
    familyCounts := records.map fun record => record.val.candidate.val.family.value
    scoreBandCounts := records.map scoreBand
    latestReviewActionCounts := measures.latestReviewActionCounts
    feedbackReasonCounts := measures.feedbackReasonCounts
    currentDownstreamOutcomeCounts := measures.currentDownstreamOutcomeCounts
    downstreamSubmissionPostureCounts := downstream.1
    detectionToReviewSeconds := measures.detectionToReviewSeconds
    approvalToConversionSeconds := measures.approvalToConversionSeconds }

/-! ## The cohort -/

/-- `_validate_scope`. -/
def validateScope (tenantId : String) (windowStartUtc windowEndUtc evaluatedAtUtc : DateTime)
    (maxOpportunities : Int) : Except EffectivenessError Unit :=
  requireAll
    [(PyText.isBlank tenantId, .scopeError "tenant_id is required"),
     (windowStartUtc.isNaive, .valueError "window_start_utc must be timezone-aware"),
     (windowEndUtc.isNaive, .valueError "window_end_utc must be timezone-aware"),
     (evaluatedAtUtc.isNaive, .valueError "evaluated_at_utc must be timezone-aware"),
     (decide (windowEndUtc ≤ windowStartUtc),
      .valueError "window_start_utc must precede window_end_utc"),
     (decide (evaluatedAtUtc < windowEndUtc),
      .valueError "window_end_utc must not be after evaluated_at_utc"),
     (decide (maxOpportunities < 1 ∨ maxEffectivenessOpportunities < maxOpportunities),
      .valueError "max_opportunities must be between 1 and 10000")]

/-- One turn of the loop of `_cohort_records`. -/
def cohortTurn (tenantId : String) (windowStartUtc windowEndUtc : DateTime)
    (maxOpportunities : Int) (cohort : List CandidatePersistenceRecord)
    (record : CandidatePersistenceRecord) :
    Except EffectivenessError (List CandidatePersistenceRecord) :=
  let candidate := record.val.candidate.val
  if ¬ (windowStartUtc ≤ candidate.createdAtUtc ∧ candidate.createdAtUtc < windowEndUtc) then
    .ok cohort
  else
    match candidate.accessScope with
    | none => .error (.scopeError
        "opportunity effectiveness requires access scope on every cohort candidate")
    | some scope =>
        if scope.val.tenantId ≠ tenantId then .ok cohort
        else if candidate.identity.val.businessIdentityId ∈
            cohort.map fun earlier => earlier.val.candidate.val.identity.val.businessIdentityId then
          .error (.dataError
            "opportunity effectiveness requires one record per business identity")
        else if maxOpportunities < (cohort ++ [record]).length then
          .error (.boundExceeded ("opportunity effectiveness exceeds the " ++
            toString maxOpportunities ++ " opportunity bound"))
        else .ok (cohort ++ [record])

/-- `_cohort_records`. -/
def cohortRecords (snapshot : IdeaRepository) (tenantId : String)
    (windowStartUtc windowEndUtc : DateTime) (maxOpportunities : Int) :
    Except EffectivenessError (List CandidatePersistenceRecord) :=
  (Sql.orderBy (fun record => record.val.candidate.val.candidateId)
    snapshot.candidateRecords.values).foldlM
    (cohortTurn tenantId windowStartUtc windowEndUtc maxOpportunities) []

/-- The summary that `build_opportunity_effectiveness_snapshot` makes. -/
def opportunityEffectivenessSummary (snapshot : IdeaRepository) (tenantId : String)
    (windowStartUtc windowEndUtc evaluatedAtUtc : DateTime) (maxOpportunities : Int) :
    Except EffectivenessError OpportunityEffectivenessRepositorySummary := do
  validateScope tenantId windowStartUtc windowEndUtc evaluatedAtUtc maxOpportunities
  let records ← cohortRecords snapshot tenantId windowStartUtc windowEndUtc maxOpportunities
  inMemoryRepositorySummary snapshot records evaluatedAtUtc

end Summary

/-! ## The validation of a summary -/

/-- The error of `opportunity_effectiveness_family.py`, as its caller raises it again. -/
def familyDataError (what : String) : EffectivenessError :=
  .dataError ("opportunity effectiveness family " ++ what)

/-- `_validate_family_summary`. -/
def validateFamilySummary (familyCounts : Counter)
    (item : OpportunityFamilyEffectivenessRepositorySummary) : Except EffectivenessError Unit :=
  let generated := item.generatedOpportunityCount
  requireAll
    [(decide (generated ≠ familyCounts.get item.family),
      familyDataError "funnel generated count is inconsistent"),
     ([item.presentedOpportunityCount, item.reviewedOpportunityCount,
        item.feedbackOpportunityCount, item.conversionOpportunityCount,
        item.suppressedOpportunityCount, item.duplicateSuppressedOpportunityCount].any
          fun value => decide (generated < value),
      familyDataError "funnel exceeds its generated cohort"),
     (decide (item.reviewedOpportunityCount <
        item.approvedOpportunityCount + item.rejectedOpportunityCount),
      familyDataError "decisions exceed reviewed opportunities"),
     (decide (item.suppressedOpportunityCount < item.duplicateSuppressedOpportunityCount),
      familyDataError "duplicate suppression exceeds suppression"),
     (decide (item.conversionIntentCount < item.conversionOpportunityCount),
      familyDataError "intents are fewer than converting opportunities"),
     (decide (item.downstreamAcceptedCount + item.downstreamRejectedCount +
        item.downstreamFailedCount + item.downstreamUncertainCount ≠ item.conversionIntentCount),
      familyDataError "downstream outcomes do not reconcile")]

/-- The names, overall counts and family counts that `_validate_family_totals` compares. -/
def familyTotals (summary : OpportunityEffectivenessRepositorySummary) :
    List (String × ℕ × (OpportunityFamilyEffectivenessRepositorySummary → ℕ)) :=
  let outcomes := downstreamOutcomeCounts summary.currentDownstreamOutcomeCounts
  [("generated", summary.generatedOpportunityCount, fun item => item.generatedOpportunityCount),
   ("presented", summary.presentedOpportunityCount, fun item => item.presentedOpportunityCount),
   ("reviewed", summary.reviewedOpportunityCount, fun item => item.reviewedOpportunityCount),
   ("approved", summary.latestReviewActionCounts.get "approve_for_conversion",
     fun item => item.approvedOpportunityCount),
   ("rejected", summary.latestReviewActionCounts.get "reject",
     fun item => item.rejectedOpportunityCount),
   ("suppressed", summary.suppressedOpportunityCount, fun item => item.suppressedOpportunityCount),
   ("duplicate_suppressed", summary.duplicateSuppressedOpportunityCount,
     fun item => item.duplicateSuppressedOpportunityCount),
   ("feedback", summary.feedbackOpportunityCount, fun item => item.feedbackOpportunityCount),
   ("conversion", summary.conversionOpportunityCount, fun item => item.conversionOpportunityCount),
   ("conversion_intent", summary.conversionIntentCount, fun item => item.conversionIntentCount),
   ("downstream_accepted", outcomes.accepted, fun item => item.downstreamAcceptedCount),
   ("downstream_rejected", outcomes.rejected, fun item => item.downstreamRejectedCount),
   ("downstream_failed", outcomes.failed, fun item => item.downstreamFailedCount),
   ("downstream_uncertain", outcomes.uncertain, fun item => item.downstreamUncertainCount)]

/-- `_validate_family_totals`. -/
def validateFamilyTotals (summary : OpportunityEffectivenessRepositorySummary) :
    Except EffectivenessError Unit :=
  let mismatched := (familyTotals summary).filter fun (_, expected, count) =>
    expected ≠ (summary.familyEffectiveness.map count).sum
  requireAll [(!mismatched.isEmpty, familyDataError ("funnel does not reconcile: " ++
    ", ".intercalate (Sql.orderBy id (mismatched.map Prod.fst))))]

/-- `validate_family_effectiveness`. -/
def validateFamilyEffectiveness (summary : OpportunityEffectivenessRepositorySummary) :
    Except EffectivenessError Unit := do
  let actual := summary.familyEffectiveness.map fun item => item.family
  requireAll [(!decide ((∀ family ∈ actual, family ∈ summary.familyCounts) ∧
      (∀ family ∈ summary.familyCounts, family ∈ actual) ∧ actual.Nodup),
    familyDataError "funnel must match the generated family cohort")]
  summary.familyEffectiveness.forM (validateFamilySummary summary.familyCounts)
  validateFamilyTotals summary

/-- `_validate_repository_summary`; the counts of this model are natural numbers. -/
def validateRepositorySummary (summary : OpportunityEffectivenessRepositorySummary)
    (maxOpportunities : Int) : Except EffectivenessError Unit := do
  requireAll
    [(decide (maxOpportunities < summary.generatedOpportunityCount),
      .boundExceeded ("opportunity effectiveness exceeds the " ++
        toString maxOpportunities ++ " opportunity bound")),
     (decide (summary.presentedOpportunityCount < summary.topRankedPresentedOpportunityCount),
      .dataError "top-ranked presented opportunities cannot exceed presented opportunities"),
     (decide (summary.topRankedPresentedOpportunityCount <
        summary.topRankedAcceptedOpportunityCount),
      .dataError
        "top-ranked accepted opportunities cannot exceed top-ranked presented opportunities"),
     (decide (summary.generatedOpportunityCount < summary.presentedOpportunityCount),
      .dataError "presented opportunities cannot exceed generated opportunities")]
  validateFamilyEffectiveness summary
  requireAll
    [((summary.detectionToReviewSeconds ++ summary.approvalToConversionSeconds).any
        fun value => decide (value < 0),
      .dataError "opportunity effectiveness repository summary contains a negative duration")]

/-! ## The rates of a summary -/

/-- The rates of the funnel of a family, and of all families together. -/
structure FunnelRates where
  presentationRate : Option EffectivenessRate
  reviewRate : EffectivenessRate
  approvalRate : EffectivenessRate
  rejectionRate : EffectivenessRate
  suppressionRate : EffectivenessRate
  feedbackRate : EffectivenessRate
  conversionRate : EffectivenessRate
  downstreamAcceptedRate : EffectivenessRate
  downstreamRejectedRate : EffectivenessRate
  downstreamFailedRate : EffectivenessRate
  downstreamUncertainRate : EffectivenessRate

/-- An `OpportunityFamilyEffectiveness`, whose counts are those of the summary. -/
structure OpportunityFamilyEffectiveness extends FunnelRates where
  family : OpportunityFamily
  summary : OpportunityFamilyEffectivenessRepositorySummary
  duplicateSuppressionRate : EffectivenessRate

/-- `_build_family_effectiveness`. -/
def buildFamilyEffectiveness (presentationAvailable : Bool)
    (item : OpportunityFamilyEffectivenessRepositorySummary) :
    Except EffectivenessError OpportunityFamilyEffectiveness := do
  let family ← (PyEnum.ofValue? item.family : Option OpportunityFamily).elim
    (.error (.valueError ("'" ++ item.family ++ "' is not a valid OpportunityFamily"))) .ok
  let presentationRate ← availableRate presentationAvailable item.presentedOpportunityCount
    item.generatedOpportunityCount
  let reviewRate ← rate item.reviewedOpportunityCount item.generatedOpportunityCount
  let approvalRate ← rate item.approvedOpportunityCount item.reviewedOpportunityCount
  let rejectionRate ← rate item.rejectedOpportunityCount item.reviewedOpportunityCount
  let suppressionRate ← rate item.suppressedOpportunityCount item.generatedOpportunityCount
  let duplicateSuppressionRate ←
    rate item.duplicateSuppressedOpportunityCount item.generatedOpportunityCount
  let feedbackRate ← rate item.feedbackOpportunityCount item.reviewedOpportunityCount
  let conversionRate ← rate item.conversionOpportunityCount item.approvedOpportunityCount
  let downstreamAcceptedRate ← rate item.downstreamAcceptedCount item.conversionIntentCount
  let downstreamRejectedRate ← rate item.downstreamRejectedCount item.conversionIntentCount
  let downstreamFailedRate ← rate item.downstreamFailedCount item.conversionIntentCount
  let downstreamUncertainRate ← rate item.downstreamUncertainCount item.conversionIntentCount
  return {
    presentationRate, reviewRate, approvalRate, rejectionRate, suppressionRate, feedbackRate
    conversionRate, downstreamAcceptedRate, downstreamRejectedRate, downstreamFailedRate
    downstreamUncertainRate, duplicateSuppressionRate, family, summary := item }

/-- The rates that a report tells: those of all families together, those of each family
and the acceptance of what was presented first. -/
structure OpportunityEffectivenessRates extends FunnelRates where
  topRankedAcceptanceRate : Option EffectivenessRate
  familyEffectiveness : List OpportunityFamilyEffectiveness

/-- `build_opportunity_effectiveness_snapshot_from_summary`, after its validation. -/
def buildOpportunityEffectivenessRates (summary : OpportunityEffectivenessRepositorySummary) :
    Except EffectivenessError OpportunityEffectivenessRates := do
  let approvedCount :=
    summary.latestReviewActionCounts.get ReviewAction.approveForConversion.value
  let rejectedCount := summary.latestReviewActionCounts.get ReviewAction.reject.value
  let outcomes := downstreamOutcomeCounts summary.currentDownstreamOutcomeCounts
  let downstreamAcceptedRate ← rate outcomes.accepted summary.conversionIntentCount
  let downstreamRejectedRate ← rate outcomes.rejected summary.conversionIntentCount
  let downstreamFailedRate ← rate outcomes.failed summary.conversionIntentCount
  let downstreamUncertainRate ← rate outcomes.uncertain summary.conversionIntentCount
  let presentationAvailable := decide (summary.presentedOpportunityCount ≠ 0)
  let presentationRate ← availableRate presentationAvailable summary.presentedOpportunityCount
    summary.generatedOpportunityCount
  let topRankedAcceptanceRate ← availableRate presentationAvailable
    summary.topRankedAcceptedOpportunityCount summary.topRankedPresentedOpportunityCount
  let familyEffectiveness ←
    (Sql.orderBy (fun item => item.family) summary.familyEffectiveness).mapM
      (buildFamilyEffectiveness presentationAvailable)
  let reviewRate ← rate summary.reviewedOpportunityCount summary.generatedOpportunityCount
  let approvalRate ← rate approvedCount summary.reviewedOpportunityCount
  let rejectionRate ← rate rejectedCount summary.reviewedOpportunityCount
  -- the families divide what they suppress by what they generate
  let suppressionRate ← rate summary.suppressedOpportunityCount summary.reviewedOpportunityCount
  let feedbackRate ← rate summary.feedbackOpportunityCount summary.reviewedOpportunityCount
  let conversionRate ← rate summary.conversionOpportunityCount approvedCount
  return {
    presentationRate, reviewRate, approvalRate, rejectionRate, suppressionRate, feedbackRate
    conversionRate, downstreamAcceptedRate, downstreamRejectedRate, downstreamFailedRate
    downstreamUncertainRate, topRankedAcceptanceRate, familyEffectiveness }

end LotusIdea

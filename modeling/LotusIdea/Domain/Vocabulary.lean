import LotusIdea.Foundation.Values
import LotusIdea.Foundation.Checked

/-!
# Vocabulary of the idea domain

The closed enumerations of `candidate_state.py` and `ideas.py`, each with the
text its members carry, and the exceptions that the domain raises.
-/

set_option autoImplicit false

namespace LotusIdea

inductive IdeaLifecycleStatus where
  | detected
  | generated
  | enriched
  | scored
  | governanceChecked
  | readyForReview
  | reviewedByAdvisor
  | approved
  | convertedToProposal
  | convertedToManageReview
  | convertedToReport
  | accepted
  | rejected
  | expired
  | executed
  | closed
  deriving DecidableEq, Repr

def IdeaLifecycleStatus.value : IdeaLifecycleStatus → String
  | .detected => "detected"
  | .generated => "generated"
  | .enriched => "enriched"
  | .scored => "scored"
  | .governanceChecked => "governance_checked"
  | .readyForReview => "ready_for_review"
  | .reviewedByAdvisor => "reviewed_by_advisor"
  | .approved => "approved"
  | .convertedToProposal => "converted_to_proposal"
  | .convertedToManageReview => "converted_to_manage_review"
  | .convertedToReport => "converted_to_report"
  | .accepted => "accepted"
  | .rejected => "rejected"
  | .expired => "expired"
  | .executed => "executed"
  | .closed => "closed"

inductive ReviewPosture where
  | notReviewed
  | advisorReviewRequired
  | advisorReviewed
  | approvedForConversion
  | rejected
  | suppressed
  | noAction
  | pmReviewRequired
  | complianceReviewRequired
  deriving DecidableEq, Repr

def ReviewPosture.value : ReviewPosture → String
  | .notReviewed => "not_reviewed"
  | .advisorReviewRequired => "advisor_review_required"
  | .advisorReviewed => "advisor_reviewed"
  | .approvedForConversion => "approved_for_conversion"
  | .rejected => "rejected"
  | .suppressed => "suppressed"
  | .noAction => "no_action"
  | .pmReviewRequired => "pm_review_required"
  | .complianceReviewRequired => "compliance_review_required"

inductive OpportunityFamily where
  | highCash
  | concentration
  | underperformance
  | allocationDrift
  | bondMaturity
  | lowIncome
  | highVolatility
  | missingBenchmark
  | missingRiskProfile
  | missingSuitabilityContext
  | mandateRestriction
  deriving DecidableEq, Repr

def OpportunityFamily.value : OpportunityFamily → String
  | .highCash => "high_cash"
  | .concentration => "concentration"
  | .underperformance => "underperformance"
  | .allocationDrift => "allocation_drift"
  | .bondMaturity => "bond_maturity"
  | .lowIncome => "low_income"
  | .highVolatility => "high_volatility"
  | .missingBenchmark => "missing_benchmark"
  | .missingRiskProfile => "missing_risk_profile"
  | .missingSuitabilityContext => "missing_suitability_context"
  | .mandateRestriction => "mandate_restriction"

inductive SourceSystem where
  | lotusCore
  | lotusPerformance
  | lotusRisk
  | lotusAdvise
  | lotusManage
  | lotusReport
  | lotusRender
  | lotusArchive
  | lotusAi
  deriving DecidableEq, Repr

def SourceSystem.value : SourceSystem → String
  | .lotusCore => "lotus-core"
  | .lotusPerformance => "lotus-performance"
  | .lotusRisk => "lotus-risk"
  | .lotusAdvise => "lotus-advise"
  | .lotusManage => "lotus-manage"
  | .lotusReport => "lotus-report"
  | .lotusRender => "lotus-render"
  | .lotusArchive => "lotus-archive"
  | .lotusAi => "lotus-ai"

inductive EvidenceFreshness where
  | current
  | stale
  | expired
  | unavailable
  deriving DecidableEq, Repr

def EvidenceFreshness.value : EvidenceFreshness → String
  | .current => "current"
  | .stale => "stale"
  | .expired => "expired"
  | .unavailable => "unavailable"

inductive EvidenceSupportability where
  | ready
  | partialEvidence
  | blocked
  deriving DecidableEq, Repr

def EvidenceSupportability.value : EvidenceSupportability → String
  | .ready => "ready"
  | .partialEvidence => "partial"
  | .blocked => "blocked"

inductive UnsupportedEvidenceReason where
  | missingSource
  | staleSource
  | sourceTemporalMismatch
  | sourceUnavailable
  | sourceUncertified
  | entitlementDenied
  | incompleteLineage
  | unsupportedSourceProduct
  | hashMismatch
  | aiUnavailable
  | unsupportedAiClaim
  deriving DecidableEq, Repr

def UnsupportedEvidenceReason.value : UnsupportedEvidenceReason → String
  | .missingSource => "missing_source"
  | .staleSource => "stale_source"
  | .sourceTemporalMismatch => "source_temporal_mismatch"
  | .sourceUnavailable => "source_unavailable"
  | .sourceUncertified => "source_uncertified"
  | .entitlementDenied => "entitlement_denied"
  | .incompleteLineage => "incomplete_lineage"
  | .unsupportedSourceProduct => "unsupported_source_product"
  | .hashMismatch => "hash_mismatch"
  | .aiUnavailable => "ai_unavailable"
  | .unsupportedAiClaim => "unsupported_ai_claim"

inductive ReasonCode where
  | highCashRatio
  | cashSourceReady
  | concentrationAttention
  | underperformanceAttention
  | allocationDriftAttention
  | maturityWindow
  | incomeAttention
  | volatilityAttention
  | drawdownAttention
  | missingBenchmark
  | missingRiskProfile
  | suitabilityContextMissing
  | mandateRestrictionReview
  | sourceStale
  | sourceDateMismatch
  | sourceGeneratedAfterEvaluation
  | sourcePartial
  | belowMateriality
  | reviewRequired
  | materialityScore
  | urgencyScore
  | confidenceScore
  | evidenceQualityScore
  | freshnessScore
  | relevanceScore
  | downstreamFitScore
  | conflictPenalty
  | queuePriority
  | queueExcluded
  | reviewApprovedForConversion
  | reviewRejected
  | reviewNoAction
  | reviewSuppressed
  | reviewSnoozed
  | reviewEscalated
  | opportunityNoLongerEligible
  | feedbackRecorded
  | entitlementDenied
  | aiRedactionApplied
  | aiFallbackUsed
  | aiVerifierPassed
  | aiUnsupportedClaimBlocked
  | aiForbiddenActionBlocked
  | aiActionContentBlocked
  deriving DecidableEq, Repr

def ReasonCode.value : ReasonCode → String
  | .highCashRatio => "high_cash_ratio"
  | .cashSourceReady => "cash_source_ready"
  | .concentrationAttention => "concentration_attention"
  | .underperformanceAttention => "underperformance_attention"
  | .allocationDriftAttention => "allocation_drift_attention"
  | .maturityWindow => "maturity_window"
  | .incomeAttention => "income_attention"
  | .volatilityAttention => "volatility_attention"
  | .drawdownAttention => "drawdown_attention"
  | .missingBenchmark => "missing_benchmark"
  | .missingRiskProfile => "missing_risk_profile"
  | .suitabilityContextMissing => "suitability_context_missing"
  | .mandateRestrictionReview => "mandate_restriction_review"
  | .sourceStale => "source_stale"
  | .sourceDateMismatch => "source_date_mismatch"
  | .sourceGeneratedAfterEvaluation => "source_generated_after_evaluation"
  | .sourcePartial => "source_partial"
  | .belowMateriality => "below_materiality"
  | .reviewRequired => "review_required"
  | .materialityScore => "materiality_score"
  | .urgencyScore => "urgency_score"
  | .confidenceScore => "confidence_score"
  | .evidenceQualityScore => "evidence_quality_score"
  | .freshnessScore => "freshness_score"
  | .relevanceScore => "relevance_score"
  | .downstreamFitScore => "downstream_fit_score"
  | .conflictPenalty => "conflict_penalty"
  | .queuePriority => "queue_priority"
  | .queueExcluded => "queue_excluded"
  | .reviewApprovedForConversion => "review_approved_for_conversion"
  | .reviewRejected => "review_rejected"
  | .reviewNoAction => "review_no_action"
  | .reviewSuppressed => "review_suppressed"
  | .reviewSnoozed => "review_snoozed"
  | .reviewEscalated => "review_escalated"
  | .opportunityNoLongerEligible => "opportunity_no_longer_eligible"
  | .feedbackRecorded => "feedback_recorded"
  | .entitlementDenied => "entitlement_denied"
  | .aiRedactionApplied => "ai_redaction_applied"
  | .aiFallbackUsed => "ai_fallback_used"
  | .aiVerifierPassed => "ai_verifier_passed"
  | .aiUnsupportedClaimBlocked => "ai_unsupported_claim_blocked"
  | .aiForbiddenActionBlocked => "ai_forbidden_action_blocked"
  | .aiActionContentBlocked => "ai_action_content_blocked"

inductive ScoreComponent where
  | materiality
  | urgency
  | confidence
  | evidenceQuality
  | freshness
  | relevance
  | downstreamFit
  | legacyFixedPolicy
  deriving DecidableEq, Repr

def ScoreComponent.value : ScoreComponent → String
  | .materiality => "materiality"
  | .urgency => "urgency"
  | .confidence => "confidence"
  | .evidenceQuality => "evidence_quality"
  | .freshness => "freshness"
  | .relevance => "relevance"
  | .downstreamFit => "downstream_fit"
  | .legacyFixedPolicy => "legacy_fixed_policy"

inductive SuppressionReason where
  | duplicate
  | recentlyRejected
  | belowMateriality
  | unsupportedEvidence
  | manualSuppression
  deriving DecidableEq, Repr

def SuppressionReason.value : SuppressionReason → String
  | .duplicate => "duplicate"
  | .recentlyRejected => "recently_rejected"
  | .belowMateriality => "below_materiality"
  | .unsupportedEvidence => "unsupported_evidence"
  | .manualSuppression => "manual_suppression"

inductive CandidateChangeReason where
  | initialDetection
  | evidenceCorrection
  | materialChange
  | recurrentCondition
  | migrationBackfill
  deriving DecidableEq, Repr

def CandidateChangeReason.value : CandidateChangeReason → String
  | .initialDetection => "initial_detection"
  | .evidenceCorrection => "evidence_correction"
  | .materialChange => "material_change"
  | .recurrentCondition => "recurrent_condition"
  | .migrationBackfill => "migration_backfill"

inductive ConversionTarget where
  | adviseProposal
  | manageReview
  | reportEvidence
  deriving DecidableEq, Repr

def ConversionTarget.value : ConversionTarget → String
  | .adviseProposal => "advise_proposal"
  | .manageReview => "manage_review"
  | .reportEvidence => "report_evidence"

inductive ConversionOutcomeStatus where
  | requested
  | accepted
  | rejected
  | failed
  | completed
  deriving DecidableEq, Repr

def ConversionOutcomeStatus.value : ConversionOutcomeStatus → String
  | .requested => "requested"
  | .accepted => "accepted"
  | .rejected => "rejected"
  | .failed => "failed"
  | .completed => "completed"

inductive FeedbackOutcome where
  | useful
  | notUseful
  deriving DecidableEq, Repr

def FeedbackOutcome.value : FeedbackOutcome → String
  | .useful => "useful"
  | .notUseful => "not_useful"

inductive FeedbackReason where
  | relevant
  | notRelevant
  | alreadyKnown
  | wrongTiming
  | insufficientEvidence
  | wrongPriority
  | duplicate
  | clientSpecificConstraint
  deriving DecidableEq, Repr

def FeedbackReason.value : FeedbackReason → String
  | .relevant => "relevant"
  | .notRelevant => "not_relevant"
  | .alreadyKnown => "already_known"
  | .wrongTiming => "wrong_timing"
  | .insufficientEvidence => "insufficient_evidence"
  | .wrongPriority => "wrong_priority"
  | .duplicate => "duplicate"
  | .clientSpecificConstraint => "client_specific_constraint"

inductive ReviewAction where
  | approveForConversion
  | reject
  | noAction
  | suppress
  | snooze
  | escalateToPm
  | escalateToCompliance
  deriving DecidableEq, Repr

def ReviewAction.value : ReviewAction → String
  | .approveForConversion => "approve_for_conversion"
  | .reject => "reject"
  | .noAction => "no_action"
  | .suppress => "suppress"
  | .snooze => "snooze"
  | .escalateToPm => "escalate_to_pm"
  | .escalateToCompliance => "escalate_to_compliance"

inductive ConversionOutcomePolicyReason where
  | duplicateIdentity
  | identityConflict
  | versionConflict
  | outOfOrderEvent
  | invalidTransition
  | invalidCorrection
  deriving DecidableEq, Repr

def ConversionOutcomePolicyReason.value : ConversionOutcomePolicyReason → String
  | .duplicateIdentity => "duplicate_identity"
  | .identityConflict => "identity_conflict"
  | .versionConflict => "version_conflict"
  | .outOfOrderEvent => "out_of_order_event"
  | .invalidTransition => "invalid_transition"
  | .invalidCorrection => "invalid_correction"

/-! ## Exceptions -/

/-- The exceptions the domain raises, by class, with what the class carries. -/
inductive PyError where
  | valueError (message : String)
  | assertionError
  | keyError (key : String)
  | runtimeError (message : String)
  /-- `decimal.InvalidOperation`. -/
  | invalidOperation
  | overflowError (message : String)
  /-- The message shows the field's name and the offending value. -/
  | invalidSha256Digest (fieldName value : String)
  | unscopedCandidatePersistence (message : String)
  | observedTimeSkew (policyId : String)
  | invalidLifecycleTransition (source target : IdeaLifecycleStatus)
  | invalidCandidateState (candidateId : String) (lifecycleStatus : IdeaLifecycleStatus)
      (reviewPosture : ReviewPosture)
  | invalidFeedbackTaxonomyCombination (taxonomyVersion : String) (outcome : FeedbackOutcome)
      (reason : FeedbackReason)
  | reviewEntitlementDenied (candidateId : String)
  | invalidReviewAction (action : ReviewAction) (lifecycleStatus : IdeaLifecycleStatus)
      (reviewPosture : ReviewPosture)
  | reviewAuthorityConflict (reason : String)
  | presentationReceiptCandidateState (message : String)
  | invalidConversionIntent (candidateId reason : String)
  | invalidConversionOutcome (conversionIntentId reason : String)
  | conversionOutcomePolicyViolation (reason : ConversionOutcomePolicyReason)
  | invalidReportEvidencePack (conversionIntentId reason : String)
  | persistedActionEvidenceUnavailable (message : String)
  | candidateLifecycleAccessScopeDenied
  | conversionAccessScopeDenied
  | reportEvidenceAccessScopeDenied
  deriving DecidableEq, Repr

/-! ## Argument checks shared by the domain modules -/

/-- `_require_text`. -/
def requireText (value fieldName : String) : Bool × PyError :=
  (PyText.isBlank value, .valueError (fieldName ++ " is required"))

def requireOptionalText (value : Option String) (fieldName : String) : Bool × PyError :=
  (value.any PyText.isBlank, .valueError (fieldName ++ " is required"))

/-- `_require_aware_utc` of the modules that ask for any aware value. -/
def requireAware (value : DateTime) (fieldName : String) : Bool × PyError :=
  (value.isNaive, .valueError (fieldName ++ " must be timezone-aware"))

/-- `_require_aware_utc` of the modules that ask for UTC itself. -/
def requireAwareUtc (value : DateTime) (fieldName : String) : List (Bool × PyError) :=
  [requireAware value fieldName, (!value.isUtc, .valueError (fieldName ++ " must be UTC"))]

/-- Raise the error of the first check that fails. -/
def validate (checks : List (Bool × PyError)) : Except PyError Unit :=
  match firstFailure checks with
  | none => .ok ()
  | some error => .error error

theorem validate_eq_ok {checks : List (Bool × PyError)} :
    validate checks = .ok () ↔ firstFailure checks = none := by
  unfold validate
  cases firstFailure checks with
  | none => simp
  | some error => simp

theorem validate_eq_error {checks : List (Bool × PyError)} {error : PyError} :
    validate checks = .error error ↔ firstFailure checks = some error := by
  unfold validate
  cases firstFailure checks with
  | none => simp
  | some own => simp

@[simp] theorem requireText_passes (value fieldName : String) :
    (requireText value fieldName).1 = PyText.isBlank value := rfl

@[simp] theorem requireOptionalText_passes (value : Option String) (fieldName : String) :
    (requireOptionalText value fieldName).1 = value.any PyText.isBlank := rfl

@[simp] theorem requireAware_passes (value : DateTime) (fieldName : String) :
    (requireAware value fieldName).1 = value.isNaive := rfl

@[simp] theorem requireAware_inUtc (value : DateTime) (fieldName : String) :
    requireAware value.inUtc fieldName = requireAware value fieldName := by
  simp [requireAware]

@[simp] theorem firstFailure_requireAwareUtc {value : DateTime} {fieldName : String} :
    firstFailure (requireAwareUtc value fieldName) = none ↔ value.isUtc = true := by
  simp only [requireAwareUtc, requireAware, firstFailure_cons, firstFailure_nil, and_true,
    Bool.not_eq_false']
  constructor
  · rintro ⟨_, utc⟩
    exact utc
  · intro utc
    exact ⟨DateTime.isNaive_of_isUtc utc, utc⟩

end LotusIdea

import LotusIdea.Domain.SourceRevision
import LotusIdea.Foundation.DecimalContext
import Mathlib.Data.Prod.Lex
import Mathlib.Data.Rat.Floor

/-!
# Idea candidates

`access_scope.py`, `candidate_state.py`, `feedback_taxonomy.py` and `ideas.py`:
the candidate with its evidence packet, score, versioned identity and access
scope, and the lifecycle transitions it may take.
-/

set_option autoImplicit false

namespace LotusIdea

/-! ## Access scope -/

structure ReviewAccessScopeFields where
  tenantId : String
  bookId : String
  portfolioId : String
  clientId : String
  deriving DecidableEq

def ReviewAccessScopeFields.checks (s : ReviewAccessScopeFields) : List (Bool × PyError) :=
  [requireText s.tenantId "tenant_id", requireText s.bookId "book_id",
   requireText s.portfolioId "portfolio_id", requireText s.clientId "client_id"]

abbrev ReviewAccessScope := Checked ReviewAccessScopeFields.checks

def unknownScopeValue : String := "unknown"

/-- Every dimension of the scope carries a source's authority. -/
def ReviewAccessScope.isAuthoritative (s : ReviewAccessScope) : Bool :=
  [s.val.tenantId, s.val.bookId, s.val.portfolioId, s.val.clientId].all fun value =>
    PyText.lower (PyText.strip value) != unknownScopeValue.toList

/-- The cleaned values of each field; an empty field asks for nothing. -/
structure QueueAccessScopeFilter where
  tenantId : List String
  bookId : List String
  portfolioId : List String
  clientId : List String

namespace QueueAccessScopeFilter

/-- `_clean_optional_values`. -/
def cleanOptionalValues (values : List String) : Except PyError (List String) := do
  let cleaned := values.map PyText.strip
  validate [(cleaned.any (· = ""), .valueError "scope fields cannot be blank")]
  return cleaned.eraseDups

def create (tenantId bookId portfolioId clientId : List String) :
    Except PyError QueueAccessScopeFilter := do
  let tenants ← cleanOptionalValues tenantId
  let books ← cleanOptionalValues bookId
  let portfolios ← cleanOptionalValues portfolioId
  let clients ← cleanOptionalValues clientId
  return ⟨tenants, books, portfolios, clients⟩

def isEmpty (f : QueueAccessScopeFilter) : Bool :=
  f.tenantId.isEmpty && f.bookId.isEmpty && f.portfolioId.isEmpty && f.clientId.isEmpty

def matchesField (expected : List String) (actual : String) : Bool :=
  expected.isEmpty || expected.contains actual

/-- `matches`. -/
def covers (f : QueueAccessScopeFilter) (accessScope : Option ReviewAccessScope) : Bool :=
  f.isEmpty || accessScope.any fun scope =>
    matchesField f.tenantId scope.val.tenantId && matchesField f.bookId scope.val.bookId &&
      matchesField f.portfolioId scope.val.portfolioId &&
      matchesField f.clientId scope.val.clientId

end QueueAccessScopeFilter

/-! ## Evidence -/

structure LineageRefFields where
  lineageId : String
  sourceRefs : List SourceRef
  contentHash : String
  deriving DecidableEq

def LineageRefFields.checks (l : LineageRefFields) : List (Bool × PyError) :=
  [requireText l.lineageId "lineage_id", requireSha256Digest l.contentHash "content_hash",
   (l.sourceRefs.isEmpty, .valueError "source_refs is required")]

abbrev LineageRef := Checked LineageRefFields.checks

def LineageRef.inUtc (l : LineageRef) : LineageRef where
  val := { l.val with sourceRefs := l.val.sourceRefs.map SourceRef.inUtc }
  valid := by
    have passed := l.valid
    simpa [LineageRefFields.checks] using passed

structure IdeaEvidencePacketFields where
  evidencePacketId : String
  supportability : EvidenceSupportability
  sourceRefs : List SourceRef
  lineageRef : LineageRef
  reasonCodes : List ReasonCode
  unsupportedReasons : List UnsupportedEvidenceReason := []
  createdAtUtc : DateTime
  applicabilityExpiresAtUtc : Option DateTime := none
  sourceCutTolerance : Option SourceCutTolerance := none
  deriving DecidableEq

namespace IdeaEvidencePacketFields

def expiryChecks (p : IdeaEvidencePacketFields) : List (Bool × PyError) :=
  p.applicabilityExpiresAtUtc.elim [] fun expiry =>
    [requireAware expiry "applicability_expires_at_utc",
     (decide (expiry ≤ p.createdAtUtc),
       .valueError "applicability_expires_at_utc must be after created_at_utc")]

def checks (p : IdeaEvidencePacketFields) : List (Bool × PyError) :=
  [requireText p.evidencePacketId "evidence_packet_id",
   requireAware p.createdAtUtc "created_at_utc"] ++
  p.expiryChecks ++
  [(p.sourceRefs.isEmpty, .valueError "source_refs is required"),
   (p.reasonCodes.isEmpty, .valueError "reason_codes is required"),
   (p.supportability = .blocked && p.unsupportedReasons.isEmpty,
     .valueError "blocked evidence requires unsupported_reasons"),
   (p.supportability = .ready && !p.unsupportedReasons.isEmpty,
     .valueError "ready evidence cannot carry unsupported_reasons")] ++
  uniqueSourceChecks p.sourceRefs

def inUtc (p : IdeaEvidencePacketFields) : IdeaEvidencePacketFields :=
  { p with
    sourceRefs := p.sourceRefs.map SourceRef.inUtc
    lineageRef := p.lineageRef.inUtc
    createdAtUtc := p.createdAtUtc.inUtc
    applicabilityExpiresAtUtc := p.applicabilityExpiresAtUtc.map DateTime.inUtc }

theorem uniqueSourceChecks_inUtc (sourceRefs : List SourceRef) :
    uniqueSourceChecks (sourceRefs.map SourceRef.inUtc) = uniqueSourceChecks sourceRefs := by
  have same : (sourceRefs.map SourceRef.inUtc).map SourceRef.identity =
      sourceRefs.map SourceRef.identity := by
    rw [List.map_map]
    rfl
  simp only [uniqueSourceChecks, same, List.isEmpty_map]

theorem checks_inUtc (p : IdeaEvidencePacketFields) : p.inUtc.checks = p.checks := by
  have expiry : p.inUtc.expiryChecks = p.expiryChecks := by
    cases given : p.applicabilityExpiresAtUtc with
    | none => simp [expiryChecks, inUtc, given]
    | some t =>
        simp only [expiryChecks, inUtc, given, Option.map_some, Option.elim_some,
          requireAware_inUtc]
        rfl
  simp only [checks, expiry]
  simp only [inUtc, requireAware_inUtc, uniqueSourceChecks_inUtc, List.isEmpty_map]
  rfl

end IdeaEvidencePacketFields

abbrev IdeaEvidencePacket := Checked IdeaEvidencePacketFields.checks

namespace IdeaEvidencePacket

def inUtc (p : IdeaEvidencePacket) : IdeaEvidencePacket where
  val := p.val.inUtc
  valid := by
    rw [IdeaEvidencePacketFields.checks_inUtc]
    exact p.valid

def sourceRevisionVectorDigest [Sha256] (p : IdeaEvidencePacket) : String :=
  LotusIdea.sourceRevisionVectorDigest p.val.sourceRefs

def sourceCutPosture (p : IdeaEvidencePacket) : SourceCutPosture :=
  LotusIdea.sourceCutPosture p.val.sourceRefs p.val.sourceCutTolerance

@[simp] theorem sourceRevisionVectorDigest_inUtc [Sha256] (p : IdeaEvidencePacket) :
    p.inUtc.sourceRevisionVectorDigest = p.sourceRevisionVectorDigest :=
  LotusIdea.sourceRevisionVectorDigest_inUtc p.val.sourceRefs

@[simp] theorem sourceCutPosture_inUtc (p : IdeaEvidencePacket) :
    p.inUtc.sourceCutPosture = p.sourceCutPosture :=
  LotusIdea.sourceCutPosture_inUtc p.val.sourceRefs p.val.sourceCutTolerance

end IdeaEvidencePacket

/-! ## Score -/

/-- The precision of the default decimal context. -/
def contextDigits : Nat := 28

/-- The result of one decimal operation. -/
def rounded (x : ℚ) : ℚ := DecimalContext.round contextDigits x

/-- `sum(values, Decimal("0"))`. -/
def decimalSum (values : List ℚ) : ℚ :=
  values.foldl (fun total value => rounded (total + value)) 0

/-- `_require_bounded_score`. -/
def requireBoundedScore (value : ℚ) (fieldName : String) : Bool × PyError :=
  (decide (value < 0 ∨ 100 < value), .valueError (fieldName ++ " must be between 0 and 100"))

/-- `quantize(Decimal("0.01"), rounding=ROUND_HALF_UP)`. -/
def quantizeScore (value : ℚ) : ℚ :=
  let cents := ⌊|value| * 100 + 1 / 2⌋
  (if value < 0 then -cents else cents) / 100

structure ScoreContributionFields where
  component : ScoreComponent
  inputScore : ℚ
  weight : ℚ
  contribution : ℚ
  deriving DecidableEq

def ScoreContributionFields.checks (c : ScoreContributionFields) : List (Bool × PyError) :=
  [requireBoundedScore c.inputScore "input_score",
   (decide (c.weight < 0 ∨ 1 < c.weight), .valueError "weight must be between 0 and 1"),
   (decide (c.contribution ≠ quantizeScore (rounded (c.inputScore * c.weight))),
     .valueError "contribution must equal input_score multiplied by weight")]

abbrev ScoreContribution := Checked ScoreContributionFields.checks

structure IdeaScoreFields where
  policyVersion : String
  score : ℚ
  reasonCodes : List ReasonCode
  contributions : List ScoreContribution
  conflictPenaltyApplied : ℚ := 0
  deriving DecidableEq

def IdeaScoreFields.checks (s : IdeaScoreFields) : List (Bool × PyError) :=
  let totalWeight := decimalSum (s.contributions.map fun c => c.val.weight)
  let contributionTotal := decimalSum (s.contributions.map fun c => c.val.contribution)
  [requireText s.policyVersion "policy_version",
   requireBoundedScore s.score "score",
   requireBoundedScore s.conflictPenaltyApplied "conflict_penalty_applied",
   (s.reasonCodes.isEmpty, .valueError "reason_codes is required"),
   (s.contributions.isEmpty, .valueError "contributions is required"),
   (!decide (s.contributions.map fun c => c.val.component).Nodup,
     .valueError "score contribution components must be unique"),
   (decide (totalWeight ≠ 1), .valueError "score contribution weights must sum to 1"),
   (decide (s.score ≠
       min 100 (max 0 (quantizeScore (rounded (contributionTotal - s.conflictPenaltyApplied))))),
     .valueError "score must equal contributions minus conflict penalty")]

abbrev IdeaScore := Checked IdeaScoreFields.checks

/-! ## Versioned identity -/

structure CandidateIdentityFields where
  businessIdentityId : String
  policyVersion : String
  materialFingerprint : String
  materialVersion : Int
  evidenceVersion : Int
  changeReason : CandidateChangeReason
  supersedesMaterialVersion : Option Int := none
  deriving DecidableEq

/-- What both version records ask of the superseded version. -/
def supersedesChecks (supersedes : Option Int) (materialVersion : Int) : List (Bool × PyError) :=
  supersedes.elim [] fun superseded =>
    [(decide (superseded < 1), .valueError "supersedes_material_version must be positive"),
     (decide (materialVersion ≤ superseded),
       .valueError "supersedes_material_version must precede material_version")]

def CandidateIdentityFields.checks (i : CandidateIdentityFields) : List (Bool × PyError) :=
  [requireText i.businessIdentityId "business_identity_id",
   requireText i.policyVersion "policy_version",
   requireText i.materialFingerprint "material_fingerprint",
   (!PyText.startsWith i.materialFingerprint sha256DigestStart,
     .valueError "material_fingerprint must use sha256"),
   (decide (i.materialVersion < 1), .valueError "material_version must be positive"),
   (decide (i.evidenceVersion < 1), .valueError "evidence_version must be positive")] ++
  supersedesChecks i.supersedesMaterialVersion i.materialVersion

abbrev CandidateIdentity := Checked CandidateIdentityFields.checks

/-- Material and evidence version, in lexicographic order. -/
abbrev IdeaVersion := ℤ ×ₗ ℤ

def CandidateIdentity.version (i : CandidateIdentity) : IdeaVersion :=
  toLex (i.val.materialVersion, i.val.evidenceVersion)

/-! ## Candidate state -/

def discoveryPostures : List ReviewPosture :=
  [.notReviewed, .advisorReviewRequired, .pmReviewRequired, .complianceReviewRequired, .suppressed]

def reviewableLifecycleStatuses : List IdeaLifecycleStatus :=
  [.generated, .enriched, .scored, .governanceChecked, .readyForReview]

def allowedReviewPosturesByLifecycle : IdeaLifecycleStatus → List ReviewPosture
  | .detected => discoveryPostures
  | .generated => discoveryPostures
  | .enriched => discoveryPostures
  | .scored => discoveryPostures
  | .governanceChecked => discoveryPostures
  | .readyForReview =>
      [.advisorReviewRequired, .pmReviewRequired, .complianceReviewRequired, .suppressed]
  | .reviewedByAdvisor =>
      [.advisorReviewed, .pmReviewRequired, .complianceReviewRequired, .suppressed]
  | .approved => [.approvedForConversion]
  | .convertedToProposal => [.approvedForConversion]
  | .convertedToManageReview => [.approvedForConversion]
  | .convertedToReport => [.approvedForConversion]
  | .accepted => [.approvedForConversion]
  | .rejected => [.rejected]
  | .expired => [.noAction]
  | .executed => [.approvedForConversion]
  | .closed => [.noAction]

def normalizedTransitionPostures : IdeaLifecycleStatus → Option ReviewPosture
  | .reviewedByAdvisor => some .advisorReviewed
  | .approved => some .approvedForConversion
  | .convertedToProposal => some .approvedForConversion
  | .convertedToManageReview => some .approvedForConversion
  | .convertedToReport => some .approvedForConversion
  | .accepted => some .approvedForConversion
  | .rejected => some .rejected
  | .expired => some .noAction
  | .executed => some .approvedForConversion
  | .closed => some .noAction
  | _ => none

def defaultTransitionPostures : IdeaLifecycleStatus → Option ReviewPosture
  | .readyForReview => some .advisorReviewRequired
  | _ => none

def candidateStateIsCompatible (lifecycleStatus : IdeaLifecycleStatus)
    (reviewPosture : ReviewPosture) : Bool :=
  (allowedReviewPosturesByLifecycle lifecycleStatus).contains reviewPosture

def reviewPostureForTransition (candidateId : String) (currentPosture : ReviewPosture)
    (targetStatus : IdeaLifecycleStatus) : Except PyError ReviewPosture :=
  match normalizedTransitionPostures targetStatus with
  | some normalized => .ok normalized
  | none =>
      if (allowedReviewPosturesByLifecycle targetStatus).contains currentPosture then
        .ok currentPosture
      else
        match defaultTransitionPostures targetStatus with
        | some posture => .ok posture
        | none => .error (.invalidCandidateState candidateId targetStatus currentPosture)

/-! ## The candidate -/

structure IdeaCandidateFields where
  candidateId : String
  identity : CandidateIdentity
  family : OpportunityFamily
  lifecycleStatus : IdeaLifecycleStatus
  reviewPosture : ReviewPosture
  evidencePacket : IdeaEvidencePacket
  sourceSignalIds : List String
  score : Option IdeaScore := none
  accessScope : Option ReviewAccessScope := none
  suppressionReason : Option SuppressionReason := none
  createdAtUtc : DateTime
  updatedAtUtc : DateTime
  deriving DecidableEq

def IdeaCandidateFields.checks (c : IdeaCandidateFields) : List (Bool × PyError) :=
  [requireText c.candidateId "candidate_id",
   requireAware c.createdAtUtc "created_at_utc",
   requireAware c.updatedAtUtc "updated_at_utc",
   (c.sourceSignalIds.isEmpty, .valueError "source_signal_ids is required"),
   (!candidateStateIsCompatible c.lifecycleStatus c.reviewPosture,
     .invalidCandidateState c.candidateId c.lifecycleStatus c.reviewPosture)]

abbrev IdeaCandidate := Checked IdeaCandidateFields.checks

namespace IdeaCandidate

/-- The candidate with its times told in UTC. -/
def inUtc (c : IdeaCandidate) : IdeaCandidate where
  val :=
    { c.val with
      evidencePacket := c.val.evidencePacket.inUtc
      createdAtUtc := c.val.createdAtUtc.inUtc
      updatedAtUtc := c.val.updatedAtUtc.inUtc }
  valid := by
    have passed := c.valid
    simpa [IdeaCandidateFields.checks] using passed

/-- `==` on candidates: datetimes are compared as instants. -/
def equals (a b : IdeaCandidate) : Bool := decide (a.inUtc = b.inUtc)

theorem equals_iff {a b : IdeaCandidate} : a.equals b = true ↔ a.inUtc = b.inUtc := by
  simp [equals]

@[simp] theorem equals_self (c : IdeaCandidate) : c.equals c = true := by simp [equals]

def version (c : IdeaCandidate) : IdeaVersion := c.val.identity.version

/-- Any reading of a candidate that does not depend on the offsets of its times
is the same on candidates that compare equal. -/
theorem congr_of_equals {β : Type*} {a b : IdeaCandidate} (same : a.equals b = true)
    (read : IdeaCandidate → β) (alike : ∀ c : IdeaCandidate, read c.inUtc = read c) :
    read a = read b := by
  rw [← alike a, ← alike b, equals_iff.mp same]

theorem identity_of_equals {a b : IdeaCandidate} (same : a.equals b = true) :
    a.val.identity = b.val.identity :=
  congr_of_equals same (fun c => c.val.identity) fun _ => rfl

theorem candidateId_of_equals {a b : IdeaCandidate} (same : a.equals b = true) :
    a.val.candidateId = b.val.candidateId :=
  congr_of_equals same (fun c => c.val.candidateId) fun _ => rfl

theorem accessScope_of_equals {a b : IdeaCandidate} (same : a.equals b = true) :
    a.val.accessScope = b.val.accessScope :=
  congr_of_equals same (fun c => c.val.accessScope) fun _ => rfl

theorem lifecycleStatus_of_equals {a b : IdeaCandidate} (same : a.equals b = true) :
    a.val.lifecycleStatus = b.val.lifecycleStatus :=
  congr_of_equals same (fun c => c.val.lifecycleStatus) fun _ => rfl

end IdeaCandidate

/-! ## Lifecycle transitions -/

def allowedLifecycleTransitions : IdeaLifecycleStatus → List IdeaLifecycleStatus
  | .detected => [.generated, .expired, .closed]
  | .generated => [.enriched, .expired, .closed]
  | .enriched => [.scored, .governanceChecked, .expired, .closed]
  | .scored => [.governanceChecked, .readyForReview, .expired, .closed]
  | .governanceChecked => [.readyForReview, .rejected, .expired, .closed]
  | .readyForReview => [.reviewedByAdvisor, .rejected, .expired, .closed]
  | .reviewedByAdvisor => [.approved, .rejected, .expired, .closed]
  | .approved =>
      [.convertedToProposal, .convertedToManageReview, .convertedToReport, .expired, .closed]
  | .convertedToProposal => [.rejected, .closed]
  | .convertedToManageReview => [.rejected, .closed]
  | .convertedToReport => [.rejected, .closed]
  | .accepted => [.closed]
  | .rejected => [.closed]
  | .expired => [.closed]
  | .executed => [.closed]
  | .closed => []

def transitionCandidate (candidate : IdeaCandidate) (targetStatus : IdeaLifecycleStatus)
    (updatedAtUtc : DateTime) : Except PyError IdeaCandidate := do
  if (allowedLifecycleTransitions candidate.val.lifecycleStatus).contains targetStatus then
    let posture ← reviewPostureForTransition candidate.val.candidateId
      candidate.val.reviewPosture targetStatus
    Checked.make IdeaCandidateFields.checks
      { candidate.val with
        lifecycleStatus := targetStatus
        reviewPosture := posture
        updatedAtUtc := updatedAtUtc }
  else
    throw (.invalidLifecycleTransition candidate.val.lifecycleStatus targetStatus)

def ownedWorkflowLifecycleStatuses : List IdeaLifecycleStatus :=
  [.reviewedByAdvisor, .approved, .convertedToProposal, .convertedToManageReview,
   .convertedToReport, .accepted, .rejected, .expired, .executed, .closed]

/-- `validate_caller_settable_lifecycle_status`. -/
def callerSettableCheck (targetStatus : IdeaLifecycleStatus) : Bool × PyError :=
  (ownedWorkflowLifecycleStatuses.contains targetStatus,
    .valueError (targetStatus.value ++ " is reserved for its owned review, conversion, expiry, " ++
      "or downstream outcome workflow and cannot be set through generic lifecycle transitions"))

/-- A transition moves along an allowed edge and changes the status, the
posture and the update time only. -/
theorem transitionCandidate_returns {candidate moved : IdeaCandidate}
    {targetStatus : IdeaLifecycleStatus} {updatedAtUtc : DateTime}
    (run : transitionCandidate candidate targetStatus updatedAtUtc = .ok moved) :
    targetStatus ∈ allowedLifecycleTransitions candidate.val.lifecycleStatus ∧
    ∃ posture, moved.val =
      { candidate.val with
        lifecycleStatus := targetStatus
        reviewPosture := posture
        updatedAtUtc := updatedAtUtc } := by
  simp only [transitionCandidate] at run
  split at run
  · rename_i allowed
    obtain ⟨posture, _, made⟩ := Except.seq_returns.mp run
    exact ⟨by simpa using allowed, posture, Checked.make_eq_ok.mp made⟩
  · cases run

/-! ## Feedback, conversion intents and outcomes -/

def feedbackTaxonomyVersion : String := "idea-feedback-taxonomy-v1"

def allowedFeedbackReasons : FeedbackOutcome → List FeedbackReason
  | .useful => [.relevant]
  | .notUseful =>
      [.notRelevant, .alreadyKnown, .wrongTiming, .insufficientEvidence, .wrongPriority,
       .duplicate, .clientSpecificConstraint]

/-- `validate_feedback_taxonomy`. -/
def feedbackTaxonomyCheck (taxonomyVersion : String) (outcome : FeedbackOutcome)
    (reason : FeedbackReason) : Bool × PyError :=
  (taxonomyVersion != feedbackTaxonomyVersion || !(allowedFeedbackReasons outcome).contains reason,
    .invalidFeedbackTaxonomyCombination taxonomyVersion outcome reason)

structure IdeaFeedbackFields where
  feedbackId : String
  outcome : FeedbackOutcome
  reason : FeedbackReason
  taxonomyVersion : String
  actorRole : String
  recordedAtUtc : DateTime
  deriving DecidableEq

def IdeaFeedbackFields.checks (f : IdeaFeedbackFields) : List (Bool × PyError) :=
  [requireText f.feedbackId "feedback_id", requireText f.actorRole "actor_role",
   requireText f.taxonomyVersion "taxonomy_version",
   requireAware f.recordedAtUtc "recorded_at_utc",
   feedbackTaxonomyCheck f.taxonomyVersion f.outcome f.reason]

abbrev IdeaFeedback := Checked IdeaFeedbackFields.checks

structure IdeaConversionIntentFields where
  conversionIntentId : String
  candidateId : String
  target : ConversionTarget
  sourceStatus : IdeaLifecycleStatus
  requestedAtUtc : DateTime
  deriving DecidableEq

def IdeaConversionIntentFields.checks (i : IdeaConversionIntentFields) : List (Bool × PyError) :=
  [requireText i.conversionIntentId "conversion_intent_id",
   requireText i.candidateId "candidate_id",
   requireAware i.requestedAtUtc "requested_at_utc",
   (decide (i.sourceStatus ≠ .approved),
     .valueError "conversion intent requires approved source_status")]

abbrev IdeaConversionIntent := Checked IdeaConversionIntentFields.checks

structure IdeaConversionOutcomeFields where
  conversionOutcomeId : String
  conversionIntentId : String
  status : ConversionOutcomeStatus
  downstreamReference : Option String := none
  recordedAtUtc : DateTime
  deriving DecidableEq

def IdeaConversionOutcomeFields.checks (o : IdeaConversionOutcomeFields) :
    List (Bool × PyError) :=
  [requireText o.conversionOutcomeId "conversion_outcome_id",
   requireText o.conversionIntentId "conversion_intent_id",
   requireAware o.recordedAtUtc "recorded_at_utc",
   requireOptionalText o.downstreamReference "downstream_reference"]

abbrev IdeaConversionOutcome := Checked IdeaConversionOutcomeFields.checks

end LotusIdea

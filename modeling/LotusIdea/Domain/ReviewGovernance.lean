import LotusIdea.Domain.ReviewAuthority

/-!
# Review decisions and feedback

`review_governance.py`: the commands a reviewer sends, the governed decision and
feedback they become, and the candidate after a review.
-/

set_option autoImplicit false

namespace LotusIdea

def candidateStatePolicyVersion : String := "idea-candidate-state-v1"

/-! ## Actors and policy -/

inductive ReviewActorRole where
  | advisor
  | portfolioManager
  | compliance
  | operator
  deriving DecidableEq, Repr

def ReviewActorRole.value : ReviewActorRole → String
  | .advisor => "advisor"
  | .portfolioManager => "portfolio_manager"
  | .compliance => "compliance"
  | .operator => "operator"

structure ReviewActorContextFields where
  actorSubject : String
  role : ReviewActorRole
  tenantIds : List String
  bookIds : List String
  portfolioIds : List String
  clientIds : List String
  deriving DecidableEq

def scopeValuesChecks (values : List String) (fieldName : String) : List (Bool × PyError) :=
  [(values.isEmpty, .valueError (fieldName ++ " is required")),
   (values.any PyText.isBlank, .valueError (fieldName ++ " cannot contain blank values"))]

def ReviewActorContextFields.checks (a : ReviewActorContextFields) : List (Bool × PyError) :=
  [requireText a.actorSubject "actor_subject"] ++
  scopeValuesChecks a.tenantIds "tenant_ids" ++ scopeValuesChecks a.bookIds "book_ids" ++
  scopeValuesChecks a.portfolioIds "portfolio_ids" ++ scopeValuesChecks a.clientIds "client_ids"

abbrev ReviewActorContext := Checked ReviewActorContextFields.checks

def ReviewActorContext.canAccess (a : ReviewActorContext) (scope : ReviewAccessScope) : Bool :=
  a.val.tenantIds.contains scope.val.tenantId && a.val.bookIds.contains scope.val.bookId &&
    a.val.portfolioIds.contains scope.val.portfolioId &&
    a.val.clientIds.contains scope.val.clientId

structure ReviewActionPolicyFields where
  policyVersion : String := "idea-human-review-v1"
  allowedRolesByAction : ReviewAction → List ReviewActorRole := fun _ => [.advisor]

def reviewActions : List ReviewAction :=
  [.approveForConversion, .reject, .noAction, .suppress, .snooze, .escalateToPm,
   .escalateToCompliance]

def ReviewActionPolicyFields.checks (p : ReviewActionPolicyFields) : List (Bool × PyError) :=
  requireText p.policyVersion "policy_version" ::
  reviewActions.map fun action =>
    ((p.allowedRolesByAction action).isEmpty,
      .valueError ("allowed roles required for action: " ++ action.value))

abbrev ReviewActionPolicy := Checked ReviewActionPolicyFields.checks

def defaultReviewActionPolicy : ReviewActionPolicy where
  val := {}
  valid := by decide

def ReviewActionPolicy.allows (p : ReviewActionPolicy) (a : ReviewActorContext)
    (action : ReviewAction) : Bool :=
  (p.val.allowedRolesByAction action).contains a.val.role

/-! ## Decisions -/

structure ReviewDecisionCommandFields where
  reviewId : String
  action : ReviewAction
  actor : ReviewActorContext
  reasonCodes : List ReasonCode
  decidedAtUtc : DateTime
  expectedCandidateEvidence : CandidateEvidenceIdentity
  reviewChannel : ReviewChannel
  presentationReceiptId : Option String
  suppressionReason : Option SuppressionReason := none
  snoozedUntilUtc : Option DateTime := none

namespace ReviewDecisionCommandFields

def channelChecks (c : ReviewDecisionCommandFields) : List (Bool × PyError) :=
  match c.reviewChannel with
  | .workbench =>
      [(c.presentationReceiptId.isNone,
         .valueError "presentation_receipt_id is required for Workbench review"),
       requireText (c.presentationReceiptId.getD "") "presentation_receipt_id"]
  | .operator =>
      [(c.presentationReceiptId.isSome,
         .valueError "non-Workbench review cannot carry presentation_receipt_id")]
  | .legacyUnverified =>
      [(true, .valueError "legacy review channel cannot admit new decisions")]

/-- `validate_review_action_field_compatibility`. -/
def actionFieldChecks (c : ReviewDecisionCommandFields) : List (Bool × PyError) :=
  [(c.action = .suppress && c.suppressionReason.isNone,
     .valueError "suppression_reason is required for suppress action"),
   (c.action ≠ .suppress && c.suppressionReason.isSome,
     .valueError "suppression_reason is only valid for suppress action"),
   (c.action = .snooze && c.snoozedUntilUtc.isNone,
     .valueError "snoozed_until_utc is required for snooze action"),
   (c.action ≠ .snooze && c.snoozedUntilUtc.isSome,
     .valueError "snoozed_until_utc is only valid for snooze action")]

def checks (c : ReviewDecisionCommandFields) : List (Bool × PyError) :=
  [requireText c.reviewId "review_id", requireAware c.decidedAtUtc "decided_at_utc",
   (c.reasonCodes.isEmpty, .valueError "reason_codes is required")] ++
  c.channelChecks ++ c.actionFieldChecks ++
  (c.snoozedUntilUtc.elim [] fun until_ =>
    [requireAware until_ "snoozed_until_utc",
     (decide (until_ ≤ c.decidedAtUtc),
       .valueError "snoozed_until_utc must be after decided_at_utc")])

end ReviewDecisionCommandFields

abbrev ReviewDecisionCommand := Checked ReviewDecisionCommandFields.checks

structure GovernedReviewDecisionFields where
  reviewId : String
  candidateId : String
  evidencePacketId : String
  evidenceContentHash : String
  sourceRevisionVectorDigest : String
  sourceCutPosture : SourceCutPosture
  candidateMaterialVersion : Int
  candidateEvidenceVersion : Int
  reviewChannel : ReviewChannel
  presentationReceiptId : Option String
  queueSnapshotDigest : Option String
  reviewPolicyVersion : String
  action : ReviewAction
  resultingPosture : ReviewPosture
  actorSubject : String
  actorRole : ReviewActorRole
  reasonCodes : List ReasonCode
  decidedAtUtc : DateTime
  acceptedAtUtc : DateTime
  reviewAuthorityPolicyVersion : String := LotusIdea.reviewAuthorityPolicyVersion
  applicabilityExpiresAtUtc : Option DateTime := none
  acceptanceTimeSource : AcceptanceTimeSource := .serverAccepted
  suppressionReason : Option SuppressionReason := none
  snoozedUntilUtc : Option DateTime := none
  deriving DecidableEq

namespace GovernedReviewDecisionFields

def evidence (d : GovernedReviewDecisionFields) : CandidateEvidenceIdentityFields where
  candidateId := d.candidateId
  materialVersion := d.candidateMaterialVersion
  evidenceVersion := d.candidateEvidenceVersion
  evidencePacketId := d.evidencePacketId
  evidenceContentHash := d.evidenceContentHash
  sourceRevisionVectorDigest := d.sourceRevisionVectorDigest
  sourceCutPosture := d.sourceCutPosture

def presentationChecks (d : GovernedReviewDecisionFields) : List (Bool × PyError) :=
  if d.reviewChannel = .workbench then
    [(d.presentationReceiptId.isNone || d.queueSnapshotDigest.isNone,
       .valueError "Workbench review decision requires presentation context")]
  else
    [(d.presentationReceiptId.isSome || d.queueSnapshotDigest.isSome,
       .valueError "non-Workbench review decision cannot carry presentation context")]

def optionalAware (value : Option DateTime) (fieldName : String) : List (Bool × PyError) :=
  value.elim [] fun t => [requireAware t fieldName]

def entryChecks (d : GovernedReviewDecisionFields) : List (Bool × PyError) :=
  [requireText d.reviewId "review_id", requireText d.candidateId "candidate_id",
   requireText d.evidencePacketId "evidence_packet_id",
   requireText d.evidenceContentHash "evidence_content_hash",
   requireText d.sourceRevisionVectorDigest "source_revision_vector_digest",
   requireText d.actorSubject "actor_subject",
   requireAware d.decidedAtUtc "decided_at_utc",
   requireAware d.acceptedAtUtc "accepted_at_utc"]

def checks (d : GovernedReviewDecisionFields) : List (Bool × PyError) :=
  d.entryChecks ++ d.evidence.checks ++
  [requireText d.reviewPolicyVersion "review_policy_version",
   requireText d.reviewAuthorityPolicyVersion "review_authority_policy_version"] ++
  optionalAware d.applicabilityExpiresAtUtc "applicability_expires_at_utc" ++
  d.presentationChecks ++
  [(d.reasonCodes.isEmpty, .valueError "reason_codes is required")] ++
  optionalAware d.snoozedUntilUtc "snoozed_until_utc"

theorem evidence_valid {d : GovernedReviewDecisionFields} (passed : firstFailure d.checks = none) :
    firstFailure d.evidence.checks = none := by
  simp only [checks, firstFailure_append] at passed
  exact passed.1.1.1.1.1.2

end GovernedReviewDecisionFields

abbrev GovernedReviewDecision := Checked GovernedReviewDecisionFields.checks

namespace GovernedReviewDecision

def candidateEvidence (d : GovernedReviewDecision) : CandidateEvidenceIdentity :=
  ⟨d.val.evidence, GovernedReviewDecisionFields.evidence_valid d.valid⟩

/-- The grant is built whenever it is read, and building it may raise. -/
def authorityGrant (d : GovernedReviewDecision) : Except PyError (Option ReviewAuthorityGrant) :=
  if d.val.action ≠ .approveForConversion ∨ d.val.reviewChannel = .legacyUnverified then .ok none
  else
    (Checked.make ReviewAuthorityGrantFields.checks
      { reviewId := d.val.reviewId
        candidateEvidence := d.candidateEvidence
        reviewChannel := d.val.reviewChannel
        actorSubject := d.val.actorSubject
        actorRole := d.val.actorRole.value
        reviewPolicyVersion := d.val.reviewPolicyVersion
        acceptedAtUtc := d.val.acceptedAtUtc
        applicabilityExpiresAtUtc := d.val.applicabilityExpiresAtUtc
        authorityPolicyVersion := d.val.reviewAuthorityPolicyVersion
        presentationReceiptId := d.val.presentationReceiptId
        queueSnapshotDigest := d.val.queueSnapshotDigest }).map some

/-- A grant comes from an approval, names its evidence and is issued active. -/
theorem authorityGrant_returns {d : GovernedReviewDecision} {g : ReviewAuthorityGrant}
    (run : d.authorityGrant = .ok (some g)) :
    d.val.action = .approveForConversion ∧ g.val.candidateEvidence = d.candidateEvidence ∧
      g.val.status = .active ∧ g.val.reviewId = d.val.reviewId := by
  unfold authorityGrant at run
  split at run
  · cases run
  · rename_i approves
    push Not at approves
    cases built : Checked.make ReviewAuthorityGrantFields.checks _ with
    | error raised =>
        rw [built] at run
        cases run
    | ok grant =>
        rw [built] at run
        cases run
        have fields := Checked.make_eq_ok.mp built
        rw [fields]
        exact ⟨approves.1, rfl, rfl, rfl⟩

end GovernedReviewDecision

/-! ## Mutation identities -/

inductive ReviewMutationType where
  | reviewDecision
  | feedbackEvent
  deriving DecidableEq, Repr

/-- Built from decisions and feedback events only, whose own checks imply those
of this record. -/
structure ReviewMutationIdentity where
  mutationType : ReviewMutationType
  resourceId : String
  candidateId : String
  evidencePacketId : String
  evidenceContentHash : String
  actorSubject : String
  actorRole : ReviewActorRole
  eventName : String
  reasonCodes : List ReasonCode
  occurredAtUtc : DateTime
  candidateMaterialVersion : Option Int := none
  candidateEvidenceVersion : Option Int := none
  reviewChannel : Option ReviewChannel := none
  presentationReceiptId : Option String := none
  reviewAuthorityPolicyVersion : Option String := none
  resultingPosture : Option ReviewPosture := none
  suppressionReason : Option SuppressionReason := none
  snoozedUntilUtc : Option DateTime := none
  sourceSignalIds : List String := []
  feedbackTaxonomyVersion : Option String := none
  feedbackReason : Option FeedbackReason := none
  deriving DecidableEq

namespace ReviewMutationIdentity

def inUtc (i : ReviewMutationIdentity) : ReviewMutationIdentity :=
  { i with
    occurredAtUtc := i.occurredAtUtc.inUtc
    snoozedUntilUtc := i.snoozedUntilUtc.map DateTime.inUtc }

/-- `==` on mutation identities. -/
def equals (a b : ReviewMutationIdentity) : Bool := decide (a.inUtc = b.inUtc)

end ReviewMutationIdentity

def reviewMutationIdentityFromDecision (d : GovernedReviewDecision) : ReviewMutationIdentity where
  mutationType := .reviewDecision
  resourceId := d.val.reviewId
  candidateId := d.val.candidateId
  evidencePacketId := d.val.evidencePacketId
  evidenceContentHash := d.val.evidenceContentHash
  actorSubject := d.val.actorSubject
  actorRole := d.val.actorRole
  eventName := d.val.action.value
  reasonCodes := d.val.reasonCodes
  occurredAtUtc := d.val.decidedAtUtc
  candidateMaterialVersion := some d.val.candidateMaterialVersion
  candidateEvidenceVersion := some d.val.candidateEvidenceVersion
  reviewChannel := some d.val.reviewChannel
  presentationReceiptId := d.val.presentationReceiptId
  reviewAuthorityPolicyVersion := some d.val.reviewAuthorityPolicyVersion
  resultingPosture := some d.val.resultingPosture
  suppressionReason := d.val.suppressionReason
  snoozedUntilUtc := d.val.snoozedUntilUtc

/-! ## Reviewing a candidate -/

def reviewActionReasonCodes : ReviewAction → ReasonCode
  | .approveForConversion => .reviewApprovedForConversion
  | .reject => .reviewRejected
  | .noAction => .reviewNoAction
  | .suppress => .reviewSuppressed
  | .snooze => .reviewSnoozed
  | .escalateToPm => .reviewEscalated
  | .escalateToCompliance => .reviewEscalated

def reviewActionPostures : ReviewAction → ReviewPosture
  | .approveForConversion => .approvedForConversion
  | .reject => .rejected
  | .noAction => .noAction
  | .suppress => .suppressed
  | .snooze => .advisorReviewRequired
  | .escalateToPm => .pmReviewRequired
  | .escalateToCompliance => .complianceReviewRequired

def decisionLifecycleStatuses : List IdeaLifecycleStatus := [.readyForReview, .reviewedByAdvisor]

def reviewActionLifecycleStatuses : ReviewAction → List IdeaLifecycleStatus
  | .approveForConversion => decisionLifecycleStatuses
  | .reject => decisionLifecycleStatuses
  | .noAction => decisionLifecycleStatuses
  | .suppress => reviewableLifecycleStatuses ++ [.reviewedByAdvisor]
  | .snooze => reviewableLifecycleStatuses ++ [.reviewedByAdvisor]
  | .escalateToPm => reviewableLifecycleStatuses ++ [.reviewedByAdvisor]
  | .escalateToCompliance => reviewableLifecycleStatuses ++ [.reviewedByAdvisor]

/-- `_canonical_owned_reason_codes`: the owned reason first, and once. -/
def canonicalOwnedReasonCodes (ownerReason : ReasonCode) (callerReasonCodes : List ReasonCode) :
    List ReasonCode :=
  ownerReason :: callerReasonCodes.filter fun reason => reason ≠ ownerReason

def invalidReviewAction (candidate : IdeaCandidate) (action : ReviewAction) : PyError :=
  .invalidReviewAction action candidate.val.lifecycleStatus candidate.val.reviewPosture

/-- `_ensure_actor_scope`. -/
def actorScopeCheck (candidateId : String) (action : ReviewAction) (actor : ReviewActorContext)
    (accessScope : Option ReviewAccessScope) (policy : ReviewActionPolicy) : Bool × PyError :=
  (!(accessScope.any actor.canAccess && policy.allows actor action),
    .reviewEntitlementDenied candidateId)

/-- `_ensure_review_actor`: each channel has its role. -/
def reviewActorChecks (candidate : IdeaCandidate) (command : ReviewDecisionCommand)
    (policy : ReviewActionPolicy) : List (Bool × PyError) :=
  [actorScopeCheck candidate.val.candidateId command.val.action command.val.actor
     candidate.val.accessScope policy,
   ((command.val.reviewChannel = .workbench && command.val.actor.val.role ≠ .advisor) ||
       (command.val.reviewChannel = .operator && command.val.actor.val.role ≠ .operator),
     .reviewEntitlementDenied candidate.val.candidateId)]

/-- `_ensure_allowed`. -/
def reviewAllowedChecks (candidate : IdeaCandidate) (command : ReviewDecisionCommand)
    (policy : ReviewActionPolicy) : List (Bool × PyError) :=
  reviewActorChecks candidate command policy ++
  [(!(reviewActionLifecycleStatuses command.val.action).contains candidate.val.lifecycleStatus,
     invalidReviewAction candidate command.val.action)]

/-- `_validate_review_presentation`: the queue snapshot that the reviewer saw. -/
def validateReviewPresentation (command : ReviewDecisionCommand)
    (presentationReceipt : Option CandidatePresentationReceipt) (acceptedAtUtc : DateTime) :
    Except PyError (Option String) :=
  if command.val.reviewChannel = .operator then
    if presentationReceipt.isSome then
      .error (.valueError "operator review cannot use a Workbench presentation receipt")
    else .ok none
  else
    match presentationReceipt with
    | none => .error (.valueError "Workbench review requires a persisted presentation receipt")
    | some receipt => do
        validate ((command.val.presentationReceiptId != some receipt.val.receiptId,
          .valueError "presentation receipt identity does not match the review command") ::
          workbenchPresentationChecks command.val.expectedCandidateEvidence receipt acceptedAtUtc)
        return some receipt.val.queueSnapshotDigest

/-- `_ensure_evidence_ready` for an approval. -/
def evidenceReadyChecks (candidate : IdeaCandidate) (acceptedAtUtc : DateTime) :
    List (Bool × PyError) :=
  let refused := invalidReviewAction candidate .approveForConversion
  [(decide (candidate.val.evidencePacket.val.supportability ≠ .ready), refused),
   (!sourceCutIsAuthoritative candidate.val.evidencePacket.sourceCutPosture, refused),
   (candidate.val.evidencePacket.val.applicabilityExpiresAtUtc.any fun expiry =>
      decide (expiry ≤ acceptedAtUtc), refused)]

/-- `_ensure_terminal_review_allowed`. -/
def terminalReviewCheck (candidate : IdeaCandidate) (action : ReviewAction) : Bool × PyError :=
  (!decisionLifecycleStatuses.contains candidate.val.lifecycleStatus,
    invalidReviewAction candidate action)

def IdeaCandidate.create (c : IdeaCandidateFields) : Except PyError IdeaCandidate :=
  Checked.make IdeaCandidateFields.checks c

/-- The candidate that an approval starts from: already reviewed, or reviewed now. -/
def reviewedByAdvisor (candidate : IdeaCandidate) (acceptedAtUtc : DateTime) :
    Except PyError IdeaCandidate :=
  match candidate.val.lifecycleStatus with
  | .readyForReview => transitionCandidate candidate .reviewedByAdvisor acceptedAtUtc
  | .reviewedByAdvisor => .ok candidate
  | _ => .error (invalidReviewAction candidate .approveForConversion)

/-- `_candidate_after_review`. -/
def candidateAfterReview (candidate : IdeaCandidate) (command : ReviewDecisionCommand)
    (acceptedAtUtc : DateTime) : Except PyError IdeaCandidate :=
  match command.val.action with
  | .approveForConversion => do
      validate (evidenceReadyChecks candidate acceptedAtUtc)
      let reviewed ← reviewedByAdvisor candidate acceptedAtUtc
      let approved ← transitionCandidate reviewed .approved acceptedAtUtc
      IdeaCandidate.create
        { approved.val with
          reviewPosture := .approvedForConversion
          updatedAtUtc := acceptedAtUtc }
  | .reject => do
      validate [terminalReviewCheck candidate .reject]
      let rejected ← transitionCandidate candidate .rejected acceptedAtUtc
      IdeaCandidate.create { rejected.val with reviewPosture := .rejected }
  | .noAction => do
      validate [terminalReviewCheck candidate .noAction]
      let closed ← transitionCandidate candidate .closed acceptedAtUtc
      IdeaCandidate.create { closed.val with reviewPosture := .noAction }
  | .suppress =>
      IdeaCandidate.create
        { candidate.val with
          reviewPosture := .suppressed
          suppressionReason := command.val.suppressionReason
          updatedAtUtc := acceptedAtUtc }
  | .snooze => IdeaCandidate.create { candidate.val with updatedAtUtc := acceptedAtUtc }
  | .escalateToPm =>
      IdeaCandidate.create
        { candidate.val with
          reviewPosture := .pmReviewRequired
          updatedAtUtc := acceptedAtUtc }
  | .escalateToCompliance =>
      IdeaCandidate.create
        { candidate.val with
          reviewPosture := .complianceReviewRequired
          updatedAtUtc := acceptedAtUtc }

/-- `queue_snooze` is left out: no repository operation reads it. -/
structure ReviewActionResult where
  sourceCandidate : IdeaCandidate
  candidate : IdeaCandidate
  decision : GovernedReviewDecision
  auditEvent : AuditEvent
  authorityGrant : Option ReviewAuthorityGrant := none

/-- `reason.value` of each, joined by commas. -/
def reasonCodesText (reasonCodes : List ReasonCode) : String :=
  String.intercalate "," (reasonCodes.map ReasonCode.value)

/-- `_review_audit_event`. -/
def reviewAuditEvent (d : GovernedReviewDecision) (before after : IdeaCandidate) :
    Except PyError AuditEvent :=
  AuditEvent.create
    { eventType := "idea.review.decision_recorded"
      actorSubject := d.val.actorSubject
      outcome := "accepted"
      occurredAtUtc := d.val.acceptedAtUtc
      attributes :=
        [("actor_role", d.val.actorRole.value),
         ("candidate_id", before.val.candidateId),
         ("candidate_family", before.val.family.value),
         ("source_revision_vector_digest", d.val.sourceRevisionVectorDigest),
         ("source_cut_posture", d.val.sourceCutPosture.value),
         ("evidence_packet_id", d.val.evidencePacketId),
         ("candidate_material_version", toString d.val.candidateMaterialVersion),
         ("candidate_evidence_version", toString d.val.candidateEvidenceVersion),
         ("review_channel", d.val.reviewChannel.value),
         ("presentation_receipt_id",
           (d.val.presentationReceiptId.filter (· != "")).getD "none"),
         ("review_action_policy_version", d.val.reviewPolicyVersion),
         ("review_authority_policy_version", d.val.reviewAuthorityPolicyVersion),
         ("policy_version", candidateStatePolicyVersion),
         ("prior_lifecycle_status", before.val.lifecycleStatus.value),
         ("prior_review_posture", before.val.reviewPosture.value),
         ("requested_action", d.val.action.value),
         ("reason_codes", reasonCodesText d.val.reasonCodes),
         ("review_action", d.val.action.value),
         ("review_posture", after.val.reviewPosture.value),
         ("observed_at_utc", d.val.decidedAtUtc.isoformat)] }

section Apply
variable [Sha256]

/-- The decision that `apply_review_action` records. -/
def decisionFor (candidate : IdeaCandidate) (command : ReviewDecisionCommand)
    (acceptedAtUtc : DateTime) (queueSnapshotDigest : Option String)
    (policy : ReviewActionPolicy) : GovernedReviewDecisionFields where
  reviewId := command.val.reviewId
  candidateId := candidate.val.candidateId
  evidencePacketId := candidate.val.evidencePacket.val.evidencePacketId
  evidenceContentHash := candidate.val.evidencePacket.val.lineageRef.val.contentHash
  sourceRevisionVectorDigest := candidate.val.evidencePacket.sourceRevisionVectorDigest
  sourceCutPosture := candidate.val.evidencePacket.sourceCutPosture
  candidateMaterialVersion := candidate.val.identity.val.materialVersion
  candidateEvidenceVersion := candidate.val.identity.val.evidenceVersion
  reviewChannel := command.val.reviewChannel
  presentationReceiptId := command.val.presentationReceiptId
  queueSnapshotDigest := queueSnapshotDigest
  reviewPolicyVersion := policy.val.policyVersion
  applicabilityExpiresAtUtc := candidate.val.evidencePacket.val.applicabilityExpiresAtUtc
  action := command.val.action
  resultingPosture := reviewActionPostures command.val.action
  actorSubject := command.val.actor.val.actorSubject
  actorRole := command.val.actor.val.role
  reasonCodes := canonicalOwnedReasonCodes (reviewActionReasonCodes command.val.action)
    command.val.reasonCodes
  decidedAtUtc := command.val.decidedAtUtc
  acceptedAtUtc := acceptedAtUtc
  suppressionReason := command.val.suppressionReason
  snoozedUntilUtc := command.val.snoozedUntilUtc

def applyReviewAction (candidate : IdeaCandidate) (command : ReviewDecisionCommand)
    (acceptedAtUtc : DateTime) (presentationReceipt : Option CandidatePresentationReceipt)
    (policy : ReviewActionPolicy) : Except PyError ReviewActionResult := do
  validate (requireAware acceptedAtUtc "accepted_at_utc" ::
    reviewAllowedChecks candidate command policy ++
    [expectedCandidateEvidenceCheck command.val.expectedCandidateEvidence candidate])
  let queueSnapshotDigest ← validateReviewPresentation command presentationReceipt acceptedAtUtc
  validate (observedTimeChecks command.val.decidedAtUtc acceptedAtUtc reviewDecisionTimePolicy ++
    [(command.val.snoozedUntilUtc.any fun until_ => decide (until_ ≤ acceptedAtUtc),
       .valueError "snoozed_until_utc must be after accepted_at_utc")])
  let updatedCandidate ← candidateAfterReview candidate command acceptedAtUtc
  let decision ← Checked.make GovernedReviewDecisionFields.checks
    (decisionFor candidate command acceptedAtUtc queueSnapshotDigest policy)
  let authorityGrant ← GovernedReviewDecision.authorityGrant decision
  let auditEvent ← reviewAuditEvent decision candidate updatedCandidate
  return ⟨candidate, updatedCandidate, decision, auditEvent, authorityGrant⟩

end Apply

/-! ## Feedback -/

inductive QueuePriorityBucket where
  | critical
  | high
  | standard
  | watchlist
  deriving DecidableEq, Repr

def defaultReviewQueuePolicyVersion : String := "idea-deterministic-ranking-v1"

def defaultRankableScorePolicyVersions : List String :=
  ["allocation-drift-mandate-review-v1", "allocation-drift-mandate-review-v2",
   "bond-maturity-review-v1", "bond-maturity-review-v2", "cashflow-liquidity-review-v1",
   "cashflow-liquidity-review-v2", "concentration-attention-v1", "concentration-attention-v2",
   "drawdown-review-attention-v1", "drawdown-review-attention-v2",
   "high-volatility-attention-v1", "high-volatility-attention-v2",
   "idea-weighted-evidence-score-v1", "idle-liquidity-v1", "idle-liquidity-v2",
   "mandate-restriction-review-v1", "mandate-restriction-review-v2",
   "missing-benchmark-review-v1", "missing-benchmark-review-v2",
   "missing-risk-profile-review-v1", "missing-risk-profile-review-v2",
   "missing-suitability-context-review-v1", "missing-suitability-context-review-v2",
   "underperformance-review-v1", "underperformance-review-v2"]

/-- `priority_bucket_for_score` under the default policy. -/
def priorityBucketForScore (score : ℚ) : QueuePriorityBucket :=
  if 85 ≤ score then .critical
  else if 70 ≤ score then .high
  else if 50 ≤ score then .standard
  else .watchlist

structure FeedbackCommandFields where
  feedbackId : String
  actor : ReviewActorContext
  outcome : FeedbackOutcome
  reason : FeedbackReason
  taxonomyVersion : String
  recordedAtUtc : DateTime
  deriving DecidableEq

def FeedbackCommandFields.checks (c : FeedbackCommandFields) : List (Bool × PyError) :=
  [requireText c.feedbackId "feedback_id", requireText c.taxonomyVersion "taxonomy_version",
   requireAware c.recordedAtUtc "recorded_at_utc",
   feedbackTaxonomyCheck c.taxonomyVersion c.outcome c.reason]

abbrev FeedbackCommand := Checked FeedbackCommandFields.checks

structure GovernedFeedbackEventFields where
  feedback : IdeaFeedback
  candidateId : String
  evidencePacketId : String
  evidenceContentHash : String
  sourceSignalIds : List String
  actorSubject : String
  actorRole : ReviewActorRole
  candidateFamily : OpportunityFamily
  candidateIdentityPolicyVersion : String
  scorePolicyVersion : Option String
  score : Option ℚ
  evidenceSupportability : EvidenceSupportability
  rankingPolicyVersion : String
  queuePriorityBucket : Option QueuePriorityBucket
  acceptedAtUtc : DateTime
  acceptanceTimeSource : AcceptanceTimeSource := .serverAccepted
  deriving DecidableEq

def GovernedFeedbackEventFields.checks (e : GovernedFeedbackEventFields) : List (Bool × PyError) :=
  [requireText e.candidateId "candidate_id",
   requireText e.evidencePacketId "evidence_packet_id",
   requireText e.evidenceContentHash "evidence_content_hash",
   requireText e.actorSubject "actor_subject",
   requireAware e.acceptedAtUtc "accepted_at_utc",
   requireText e.candidateIdentityPolicyVersion "candidate_identity_policy_version",
   requireText e.rankingPolicyVersion "ranking_policy_version",
   requireOptionalText e.scorePolicyVersion "score_policy_version",
   (e.score.isNone != e.scorePolicyVersion.isNone,
     .valueError "score and score_policy_version must be provided together"),
   (e.sourceSignalIds.isEmpty, .valueError "source_signal_ids is required")]

abbrev GovernedFeedbackEvent := Checked GovernedFeedbackEventFields.checks

structure FeedbackResult where
  feedbackEvent : GovernedFeedbackEvent
  auditEvent : AuditEvent

def feedbackMutationIdentityFromEvent (e : GovernedFeedbackEvent) : ReviewMutationIdentity where
  mutationType := .feedbackEvent
  resourceId := e.val.feedback.val.feedbackId
  candidateId := e.val.candidateId
  evidencePacketId := e.val.evidencePacketId
  evidenceContentHash := e.val.evidenceContentHash
  actorSubject := e.val.actorSubject
  actorRole := e.val.actorRole
  eventName := e.val.feedback.val.outcome.value
  reasonCodes := [.feedbackRecorded]
  occurredAtUtc := e.val.feedback.val.recordedAtUtc
  sourceSignalIds := e.val.sourceSignalIds
  feedbackTaxonomyVersion := some e.val.feedback.val.taxonomyVersion
  feedbackReason := some e.val.feedback.val.reason

/-- The evidence named is the one that the command expects. -/
def reviewMutationIdentityFromCommand (candidate : IdeaCandidate)
    (command : ReviewDecisionCommand) : ReviewMutationIdentity where
  mutationType := .reviewDecision
  resourceId := command.val.reviewId
  candidateId := candidate.val.candidateId
  evidencePacketId := command.val.expectedCandidateEvidence.val.evidencePacketId
  evidenceContentHash := command.val.expectedCandidateEvidence.val.evidenceContentHash
  actorSubject := command.val.actor.val.actorSubject
  actorRole := command.val.actor.val.role
  eventName := command.val.action.value
  reasonCodes := canonicalOwnedReasonCodes (reviewActionReasonCodes command.val.action)
    command.val.reasonCodes
  occurredAtUtc := command.val.decidedAtUtc
  candidateMaterialVersion := some command.val.expectedCandidateEvidence.val.materialVersion
  candidateEvidenceVersion := some command.val.expectedCandidateEvidence.val.evidenceVersion
  reviewChannel := some command.val.reviewChannel
  presentationReceiptId := command.val.presentationReceiptId
  reviewAuthorityPolicyVersion := some reviewAuthorityPolicyVersion
  resultingPosture := some (reviewActionPostures command.val.action)
  suppressionReason := command.val.suppressionReason
  snoozedUntilUtc := command.val.snoozedUntilUtc

/-- The evidence named is the one that the candidate stands on now. -/
def feedbackMutationIdentityFromCommand (candidate : IdeaCandidate) (command : FeedbackCommand) :
    ReviewMutationIdentity where
  mutationType := .feedbackEvent
  resourceId := command.val.feedbackId
  candidateId := candidate.val.candidateId
  evidencePacketId := candidate.val.evidencePacket.val.evidencePacketId
  evidenceContentHash := candidate.val.evidencePacket.val.lineageRef.val.contentHash
  actorSubject := command.val.actor.val.actorSubject
  actorRole := command.val.actor.val.role
  eventName := command.val.outcome.value
  reasonCodes := [.feedbackRecorded]
  occurredAtUtc := command.val.recordedAtUtc
  sourceSignalIds := candidate.val.sourceSignalIds
  feedbackTaxonomyVersion := some command.val.taxonomyVersion
  feedbackReason := some command.val.reason

/-- `record_feedback`. -/
def recordFeedback (candidate : IdeaCandidate) (command : FeedbackCommand)
    (acceptedAtUtc : DateTime) (policy : ReviewActionPolicy) : Except PyError FeedbackResult := do
  validate ([requireAware acceptedAtUtc "accepted_at_utc",
    actorScopeCheck candidate.val.candidateId .noAction command.val.actor
      candidate.val.accessScope policy] ++
    observedTimeChecks command.val.recordedAtUtc acceptedAtUtc feedbackTimePolicy)
  let feedback ← Checked.make IdeaFeedbackFields.checks
    { feedbackId := command.val.feedbackId
      outcome := command.val.outcome
      reason := command.val.reason
      taxonomyVersion := command.val.taxonomyVersion
      actorRole := command.val.actor.val.role.value
      recordedAtUtc := command.val.recordedAtUtc }
  let rankable := candidate.val.score.filter fun score =>
    defaultRankableScorePolicyVersions.contains score.val.policyVersion
  let feedbackEvent ← Checked.make GovernedFeedbackEventFields.checks
    { feedback := feedback
      candidateId := candidate.val.candidateId
      evidencePacketId := candidate.val.evidencePacket.val.evidencePacketId
      evidenceContentHash := candidate.val.evidencePacket.val.lineageRef.val.contentHash
      sourceSignalIds := candidate.val.sourceSignalIds
      actorSubject := command.val.actor.val.actorSubject
      actorRole := command.val.actor.val.role
      candidateFamily := candidate.val.family
      candidateIdentityPolicyVersion := candidate.val.identity.val.policyVersion
      scorePolicyVersion := candidate.val.score.map fun score => score.val.policyVersion
      score := candidate.val.score.map fun score => score.val.score
      evidenceSupportability := candidate.val.evidencePacket.val.supportability
      rankingPolicyVersion := defaultReviewQueuePolicyVersion
      queuePriorityBucket := rankable.map fun score => priorityBucketForScore score.val.score
      acceptedAtUtc := acceptedAtUtc }
  let auditEvent ← AuditEvent.create
    { eventType := "idea.feedback.recorded"
      actorSubject := command.val.actor.val.actorSubject
      outcome := "accepted"
      occurredAtUtc := acceptedAtUtc
      attributes :=
        [("actor_role", command.val.actor.val.role.value),
         ("candidate_family", candidate.val.family.value),
         ("evidence_packet_id", candidate.val.evidencePacket.val.evidencePacketId),
         ("feedback_outcome", command.val.outcome.value),
         ("feedback_reason", command.val.reason.value),
         ("feedback_taxonomy_version", command.val.taxonomyVersion),
         ("observed_at_utc", command.val.recordedAtUtc.isoformat)] }
  return ⟨feedbackEvent, auditEvent⟩

/-- The event is recorded under the identity of its command. -/
theorem recordFeedback_identity {candidate : IdeaCandidate} {command : FeedbackCommand}
    {acceptedAtUtc : DateTime} {policy : ReviewActionPolicy} {result : FeedbackResult}
    (run : recordFeedback candidate command acceptedAtUtc policy = .ok result) :
    feedbackMutationIdentityFromEvent result.feedbackEvent =
      feedbackMutationIdentityFromCommand candidate command := by
  simp only [recordFeedback] at run
  obtain ⟨_, _, run⟩ := Except.seq_returns.mp run
  obtain ⟨feedback, madeFeedback, run⟩ := Except.seq_returns.mp run
  obtain ⟨event, madeEvent, run⟩ := Except.seq_returns.mp run
  obtain ⟨_, _, run⟩ := Except.seq_returns.mp run
  cases run
  have eventFields := Checked.make_eq_ok.mp madeEvent
  have feedbackFields := Checked.make_eq_ok.mp madeFeedback
  simp only [feedbackMutationIdentityFromEvent, eventFields, feedbackFields]
  rfl

/-! ## What a review leaves alone -/

/-- The parts of a candidate that no review, transition or conversion touches. -/
structure SameEvidence (before after : IdeaCandidate) : Prop where
  candidateId : after.val.candidateId = before.val.candidateId
  identity : after.val.identity = before.val.identity
  accessScope : after.val.accessScope = before.val.accessScope
  evidencePacket : after.val.evidencePacket = before.val.evidencePacket

namespace SameEvidence

theorem refl (c : IdeaCandidate) : SameEvidence c c := ⟨rfl, rfl, rfl, rfl⟩

theorem trans {a b c : IdeaCandidate} (first : SameEvidence a b) (second : SameEvidence b c) :
    SameEvidence a c where
  candidateId := second.candidateId.trans first.candidateId
  identity := second.identity.trans first.identity
  accessScope := second.accessScope.trans first.accessScope
  evidencePacket := second.evidencePacket.trans first.evidencePacket

theorem version {before after : IdeaCandidate} (same : SameEvidence before after) :
    after.version = before.version := by
  simp only [IdeaCandidate.version, same.identity]

theorem fromCandidate [Sha256] {before after : IdeaCandidate} (same : SameEvidence before after) :
    CandidateEvidenceIdentity.fromCandidate after =
      CandidateEvidenceIdentity.fromCandidate before :=
  CandidateEvidenceIdentity.fromCandidate_congr same.candidateId same.identity same.evidencePacket

end SameEvidence

theorem transitionCandidate_sameEvidence {candidate moved : IdeaCandidate}
    {targetStatus : IdeaLifecycleStatus} {updatedAtUtc : DateTime}
    (run : transitionCandidate candidate targetStatus updatedAtUtc = .ok moved) :
    SameEvidence candidate moved := by
  obtain ⟨_, posture, fields⟩ := transitionCandidate_returns run
  constructor <;> rw [fields]

theorem create_sameEvidence {base fields : IdeaCandidateFields} {start made : IdeaCandidate}
    (run : IdeaCandidate.create fields = .ok made) (from_ : start.val = base)
    (candidateId : fields.candidateId = base.candidateId) (identity : fields.identity = base.identity)
    (accessScope : fields.accessScope = base.accessScope)
    (packet : fields.evidencePacket = base.evidencePacket) : SameEvidence start made := by
  have val := Checked.make_eq_ok.mp run
  constructor <;> rw [val, from_] <;> assumption

theorem reviewedByAdvisor_sameEvidence {candidate reviewed : IdeaCandidate}
    {acceptedAtUtc : DateTime} (run : reviewedByAdvisor candidate acceptedAtUtc = .ok reviewed) :
    SameEvidence candidate reviewed := by
  unfold reviewedByAdvisor at run
  split at run
  · exact transitionCandidate_sameEvidence run
  · cases run
    exact SameEvidence.refl candidate
  · cases run

theorem candidateAfterReview_sameEvidence {candidate updated : IdeaCandidate}
    {command : ReviewDecisionCommand} {acceptedAtUtc : DateTime}
    (run : candidateAfterReview candidate command acceptedAtUtc = .ok updated) :
    SameEvidence candidate updated := by
  unfold candidateAfterReview at run
  split at run
  · obtain ⟨_, _, run⟩ := Except.seq_returns.mp run
    obtain ⟨reviewed, first, run⟩ := Except.seq_returns.mp run
    obtain ⟨approved, second, run⟩ := Except.seq_returns.mp run
    exact ((reviewedByAdvisor_sameEvidence first).trans
      (transitionCandidate_sameEvidence second)).trans
        (create_sameEvidence run rfl rfl rfl rfl rfl)
  · obtain ⟨_, _, run⟩ := Except.seq_returns.mp run
    obtain ⟨rejected, moved, run⟩ := Except.seq_returns.mp run
    exact (transitionCandidate_sameEvidence moved).trans
      (create_sameEvidence run rfl rfl rfl rfl rfl)
  · obtain ⟨_, _, run⟩ := Except.seq_returns.mp run
    obtain ⟨closed, moved, run⟩ := Except.seq_returns.mp run
    exact (transitionCandidate_sameEvidence moved).trans
      (create_sameEvidence run rfl rfl rfl rfl rfl)
  · exact create_sameEvidence run rfl rfl rfl rfl rfl
  · exact create_sameEvidence run rfl rfl rfl rfl rfl
  · exact create_sameEvidence run rfl rfl rfl rfl rfl
  · exact create_sameEvidence run rfl rfl rfl rfl rfl

/-- A review is taken on a status that is open to review, keeps the evidence and
decides on it. -/
theorem applyReviewAction_returns [Sha256] {candidate : IdeaCandidate}
    {command : ReviewDecisionCommand} {acceptedAtUtc : DateTime}
    {presentationReceipt : Option CandidatePresentationReceipt} {policy : ReviewActionPolicy}
    {result : ReviewActionResult}
    (run : applyReviewAction candidate command acceptedAtUtc presentationReceipt policy =
      .ok result) :
    result.sourceCandidate = candidate ∧ SameEvidence candidate result.candidate ∧
      result.decision.candidateEvidence = CandidateEvidenceIdentity.fromCandidate candidate ∧
      candidate.val.lifecycleStatus ∈ reviewActionLifecycleStatuses command.val.action := by
  simp only [applyReviewAction] at run
  obtain ⟨_, allowed, run⟩ := Except.seq_returns.mp run
  obtain ⟨digest, _, run⟩ := Except.seq_returns.mp run
  obtain ⟨_, _, run⟩ := Except.seq_returns.mp run
  obtain ⟨updated, moved, run⟩ := Except.seq_returns.mp run
  obtain ⟨decision, made, run⟩ := Except.seq_returns.mp run
  obtain ⟨grant, _, run⟩ := Except.seq_returns.mp run
  obtain ⟨audit, _, run⟩ := Except.seq_returns.mp run
  cases run
  have passed := validate_eq_ok.mp allowed
  simp only [reviewAllowedChecks, firstFailure_cons, firstFailure_append, Bool.not_eq_false',
    List.contains_iff_mem] at passed
  refine ⟨rfl, candidateAfterReview_sameEvidence moved, ?_, passed.1.2.2.1⟩
  apply Checked.ext
  have fields := Checked.make_eq_ok.mp made
  simp only [GovernedReviewDecision.candidateEvidence, fields]
  rfl

/-- The decision is recorded under the identity of its command, which expects the
evidence that the candidate stands on. -/
theorem applyReviewAction_identity [Sha256] {candidate : IdeaCandidate}
    {command : ReviewDecisionCommand} {acceptedAtUtc : DateTime}
    {presentationReceipt : Option CandidatePresentationReceipt} {policy : ReviewActionPolicy}
    {result : ReviewActionResult}
    (run : applyReviewAction candidate command acceptedAtUtc presentationReceipt policy =
      .ok result) :
    reviewMutationIdentityFromDecision result.decision =
        reviewMutationIdentityFromCommand candidate command ∧
      command.val.expectedCandidateEvidence = CandidateEvidenceIdentity.fromCandidate candidate ∧
      GovernedReviewDecision.authorityGrant result.decision = .ok result.authorityGrant := by
  simp only [applyReviewAction] at run
  obtain ⟨_, allowed, run⟩ := Except.seq_returns.mp run
  obtain ⟨digest, _, run⟩ := Except.seq_returns.mp run
  obtain ⟨_, _, run⟩ := Except.seq_returns.mp run
  obtain ⟨updated, _, run⟩ := Except.seq_returns.mp run
  obtain ⟨decision, made, run⟩ := Except.seq_returns.mp run
  obtain ⟨grant, granted, run⟩ := Except.seq_returns.mp run
  obtain ⟨audit, _, run⟩ := Except.seq_returns.mp run
  cases run
  have passed := validate_eq_ok.mp allowed
  simp only [expectedCandidateEvidenceCheck, firstFailure_cons, firstFailure_append,
    decide_eq_false_iff_not, not_not] at passed
  have expected := passed.2.1
  have fields := Checked.make_eq_ok.mp made
  refine ⟨?_, expected, granted⟩
  simp only [reviewMutationIdentityFromDecision, fields, reviewMutationIdentityFromCommand, expected]
  rfl

end LotusIdea

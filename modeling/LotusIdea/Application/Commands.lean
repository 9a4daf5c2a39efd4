import LotusIdea.Repository.Runs

/-!
# Workflow commands

The commands of `review_workflow.py`, `candidate_lifecycle.py`,
`conversion_workflow.py` and `report_evidence.py`, the payloads that their
idempotency keys stand for, and the persisted action that each of them reports.
-/

set_option autoImplicit false

namespace LotusIdea

/-! ## Lifecycle -/

structure ApplyCandidateLifecycleTransitionCommandFields where
  candidateId : String
  transitionId : String
  targetStatus : IdeaLifecycleStatus
  changedAtUtc : DateTime
  acceptedAtUtc : DateTime
  reasonCodes : List String
  actorSubject : String
  idempotencyKey : String
  accessScopeFilter : QueueAccessScopeFilter
  eventLineage : Option EventLineageContext := none

def ApplyCandidateLifecycleTransitionCommandFields.checks
    (c : ApplyCandidateLifecycleTransitionCommandFields) : List (Bool × PyError) :=
  [requireText c.candidateId "candidate_id", requireText c.transitionId "transition_id",
   requireText c.actorSubject "actor_subject", requireText c.idempotencyKey "idempotency_key",
   (c.reasonCodes.isEmpty, .valueError "reason_codes is required"),
   (c.reasonCodes.any PyText.isBlank, .valueError "reason_codes cannot contain blank values"),
   callerSettableCheck c.targetStatus, requireAware c.changedAtUtc "changed_at_utc"] ++
  observedTimeChecks c.changedAtUtc c.acceptedAtUtc lifecycleTransitionTimePolicy

abbrev ApplyCandidateLifecycleTransitionCommand :=
  Checked ApplyCandidateLifecycleTransitionCommandFields.checks

structure PersistedLifecycleTransition where
  transitionId : String
  candidateId : String
  lifecycleStatus : IdeaLifecycleStatus
  changedAtUtc : DateTime
  acceptedAtUtc : DateTime
  reasonCodes : List String
  deriving DecidableEq

/-- `_lifecycle_payload`. -/
def lifecyclePayload (c : ApplyCandidateLifecycleTransitionCommand) : Json :=
  .obj
    [("candidate_id", .str c.val.candidateId),
     ("changed_at_utc", .str c.val.changedAtUtc.isoformat),
     ("reason_codes", .arr (c.val.reasonCodes.map .str)),
     ("target_status", .str c.val.targetStatus.value),
     ("transition_id", .str c.val.transitionId)]

/-! ## Reviews and feedback -/

structure ApplyReviewActionToRepositoryCommandFields where
  candidateId : String
  review : ReviewDecisionCommand
  idempotencyKey : String
  acceptedAtUtc : DateTime
  eventLineage : Option EventLineageContext := none

def ApplyReviewActionToRepositoryCommandFields.checks
    (c : ApplyReviewActionToRepositoryCommandFields) : List (Bool × PyError) :=
  [requireText c.candidateId "candidate_id",
   requireText c.idempotencyKey "idempotency_key"] ++
  requireAwareUtc c.acceptedAtUtc "accepted_at_utc"

abbrev ApplyReviewActionToRepositoryCommand :=
  Checked ApplyReviewActionToRepositoryCommandFields.checks

structure RecordFeedbackToRepositoryCommandFields where
  candidateId : String
  feedback : FeedbackCommand
  idempotencyKey : String
  acceptedAtUtc : DateTime
  eventLineage : Option EventLineageContext := none

def RecordFeedbackToRepositoryCommandFields.checks
    (c : RecordFeedbackToRepositoryCommandFields) : List (Bool × PyError) :=
  [requireText c.candidateId "candidate_id",
   requireText c.idempotencyKey "idempotency_key"] ++
  requireAwareUtc c.acceptedAtUtc "accepted_at_utc"

abbrev RecordFeedbackToRepositoryCommand :=
  Checked RecordFeedbackToRepositoryCommandFields.checks

def optionalTime (value : Option DateTime) : Json :=
  value.elim .null fun time => .str time.isoformat

/-- The expected evidence as the payloads tell it. -/
def expectedEvidencePayload (e : CandidateEvidenceIdentity) : Json :=
  .obj
    [("candidate_id", .str e.val.candidateId),
     ("material_version", .int e.val.materialVersion),
     ("evidence_version", .int e.val.evidenceVersion),
     ("evidence_packet_id", .str e.val.evidencePacketId),
     ("evidence_content_hash", .str e.val.evidenceContentHash)]

/-- `_review_payload`. -/
def reviewPayload (c : ApplyReviewActionToRepositoryCommand) : Json :=
  let review := c.val.review.val
  .obj
    [("action", .str review.action.value),
     ("actor_role", .str review.actor.val.role.value),
     ("actor_subject", .str review.actor.val.actorSubject),
     ("candidate_id", .str c.val.candidateId),
     ("decided_at_utc", .str review.decidedAtUtc.isoformat),
     ("reason_codes", .arr (review.reasonCodes.map fun reason => .str reason.value)),
     ("review_id", .str review.reviewId),
     ("review_channel", .str review.reviewChannel.value),
     ("presentation_receipt_id", optionalText review.presentationReceiptId),
     ("expected_candidate_evidence", expectedEvidencePayload review.expectedCandidateEvidence),
     ("snoozed_until_utc", optionalTime review.snoozedUntilUtc),
     ("suppression_reason", optionalText (review.suppressionReason.map SuppressionReason.value))]

/-- `_feedback_payload`. -/
def feedbackPayload (c : RecordFeedbackToRepositoryCommand) : Json :=
  let feedback := c.val.feedback.val
  .obj
    [("actor_role", .str feedback.actor.val.role.value),
     ("actor_subject", .str feedback.actor.val.actorSubject),
     ("candidate_id", .str c.val.candidateId),
     ("feedback_id", .str feedback.feedbackId),
     ("feedback_taxonomy_version", .str feedback.taxonomyVersion),
     ("outcome", .str feedback.outcome.value),
     ("reason", .str feedback.reason.value),
     ("recorded_at_utc", .str feedback.recordedAtUtc.isoformat)]

/-! ## Conversions -/

structure RequestConversionIntentToRepositoryCommandFields where
  candidateId : String
  conversion : ConversionIntentCommand
  idempotencyKey : String
  acceptedAtUtc : DateTime
  accessScopeFilter : Option QueueAccessScopeFilter := none
  eventLineage : Option EventLineageContext := none

def RequestConversionIntentToRepositoryCommandFields.checks
    (c : RequestConversionIntentToRepositoryCommandFields) : List (Bool × PyError) :=
  [requireText c.candidateId "candidate_id", requireText c.idempotencyKey "idempotency_key",
   (c.conversion.val.idempotencyKey != c.idempotencyKey,
     .valueError "conversion idempotency key must match repository idempotency key"),
   requireAware c.acceptedAtUtc "accepted_at_utc"]

abbrev RequestConversionIntentToRepositoryCommand :=
  Checked RequestConversionIntentToRepositoryCommandFields.checks

structure RecordConversionOutcomeToRepositoryCommandFields where
  conversionIntentId : String
  outcome : ConversionOutcomeCommand
  idempotencyKey : String
  acceptedAtUtc : DateTime
  accessScopeFilter : Option QueueAccessScopeFilter
  eventLineage : Option EventLineageContext := none

def RecordConversionOutcomeToRepositoryCommandFields.checks
    (c : RecordConversionOutcomeToRepositoryCommandFields) : List (Bool × PyError) :=
  [requireText c.conversionIntentId "conversion_intent_id",
   requireText c.idempotencyKey "idempotency_key",
   requireAware c.acceptedAtUtc "accepted_at_utc"]

abbrev RecordConversionOutcomeToRepositoryCommand :=
  Checked RecordConversionOutcomeToRepositoryCommandFields.checks

/-- `_conversion_intent_payload`: the actor is not part of it. -/
def conversionIntentPayload (c : RequestConversionIntentToRepositoryCommand) : Json :=
  let conversion := c.val.conversion.val
  .obj
    [("candidate_id", .str c.val.candidateId),
     ("conversion_intent_id", .str conversion.conversionIntentId),
     ("reason_codes", .arr (conversion.reasonCodes.map fun reason => .str reason.value)),
     ("requested_at_utc", .str conversion.requestedAtUtc.isoformat),
     ("target", .str conversion.target.value),
     ("expected_review_id", .str conversion.expectedReviewId),
     ("expected_candidate_evidence",
       expectedEvidencePayload conversion.expectedCandidateEvidence)]

/-- `_conversion_outcome_payload`. -/
def conversionOutcomePayload (c : RecordConversionOutcomeToRepositoryCommand) : Json :=
  let outcome := c.val.outcome.val
  .obj
    [("conversion_intent_id", .str c.val.conversionIntentId),
     ("conversion_outcome_id", .str outcome.conversionOutcomeId),
     ("actor_subject", .str outcome.actorSubject),
     ("downstream_reference", optionalText outcome.downstreamReference),
     ("recorded_at_utc", .str outcome.recordedAtUtc.isoformat),
     ("source_system", .str outcome.sourceSystem.value),
     ("source_event_version", .int outcome.sourceEventVersion),
     ("status", .str outcome.status.value),
     ("supersedes_conversion_outcome_id", optionalText outcome.supersedesConversionOutcomeId),
     ("correction_reason", optionalText outcome.correctionReason)]

/-! ## Report evidence packs -/

structure RequestReportEvidencePackToRepositoryCommandFields where
  conversionIntentId : String
  evidencePack : ReportEvidencePackCommand
  idempotencyKey : String
  accessScopeFilter : QueueAccessScopeFilter
  eventLineage : Option EventLineageContext := none

def RequestReportEvidencePackToRepositoryCommandFields.checks
    (c : RequestReportEvidencePackToRepositoryCommandFields) : List (Bool × PyError) :=
  [requireText c.conversionIntentId "conversion_intent_id",
   requireText c.idempotencyKey "idempotency_key",
   (c.evidencePack.val.idempotencyKey != c.idempotencyKey,
     .valueError "report evidence pack idempotency key must match repository idempotency key")]

abbrev RequestReportEvidencePackToRepositoryCommand :=
  Checked RequestReportEvidencePackToRepositoryCommandFields.checks

/-- `_report_evidence_pack_payload`: the actor is not part of it. -/
def reportEvidencePackPayload (c : RequestReportEvidencePackToRepositoryCommand) : Json :=
  let pack := c.val.evidencePack.val
  .obj
    [("client_ready_publication_requested", .bool pack.clientReadyPublicationRequested),
     ("conversion_intent_id", .str c.val.conversionIntentId),
     ("purpose", .str pack.purpose.value),
     ("reason_codes", .arr (pack.reasonCodes.map fun reason => .str reason.value)),
     ("report_evidence_pack_id", .str pack.reportEvidencePackId),
     ("requested_at_utc", .str pack.requestedAtUtc.isoformat),
     ("retention_policy_ref", .str pack.retentionPolicyRef)]

/-! ## The persisted action -/

/-- `require_single_persisted_action`. -/
def requireSinglePersistedAction {α : Type} : List α → Except PyError α
  | [action] => .ok action
  | _ => .error (.persistedActionEvidenceUnavailable
      "Successful mutation did not resolve exactly one persisted action")

/-- The dispositions for which a workflow reports the persisted action. -/
def PersistenceDecision.reportsAction (d : PersistenceDecision) : Bool :=
  d = .accepted || d = .replayed

/-- The record of a successful mutation, which must be `candidateId`'s where one is named. -/
def successfulRecord (persistence : PersistenceResult) (candidateId : Option String)
    (missing : String) : Except PyError CandidatePersistenceRecord :=
  match persistence.record with
  | none => .error (.persistedActionEvidenceUnavailable missing)
  | some record =>
      if candidateId.all (record.val.candidate.val.candidateId = ·) then .ok record
      else .error (.persistedActionEvidenceUnavailable missing)

/-- The shape of the `_persisted_*` functions: nothing unless the mutation was
accepted or replayed, else the one action of the record that `found` selects. -/
def persistedAction {α : Type} (persistence : PersistenceResult) (candidateId : Option String)
    (missing : String) (found : CandidatePersistenceRecord → Except PyError α) :
    Except PyError (Option α) :=
  if persistence.decision.reportsAction then do
    let record ← successfulRecord persistence candidateId missing
    let action ← found record
    return some action
  else .ok none

/-- `_persisted_review_decision`. -/
def persistedReviewDecision (c : ApplyReviewActionToRepositoryCommand)
    (persistence : PersistenceResult) : Except PyError (Option GovernedReviewDecision) :=
  persistedAction persistence (some c.val.candidateId)
    "Successful review mutation has no matching candidate record" fun record =>
      let expected := reviewMutationIdentityFromCommand record.val.candidate c.val.review
      requireSinglePersistedAction (record.val.reviewDecisions.filter fun decision =>
        (reviewMutationIdentityFromDecision decision).equals expected)

/-- The grants that `_persisted_review_authority` collects. -/
def grantsForReview (review : ReviewDecisionCommand) :
    List GovernedReviewDecision → Except PyError (List ReviewAuthorityGrant)
  | [] => .ok []
  | decision :: rest =>
      if decision.val.reviewId = review.val.reviewId then do
        let held ← decision.authorityGrant
        let others ← grantsForReview review rest
        match held with
        | none => return others
        | some grant =>
            if grant.val.candidateEvidence = review.val.expectedCandidateEvidence then
              return grant :: others
            else return others
      else grantsForReview review rest

/-- `_persisted_review_authority`: only an approval has one. -/
def persistedReviewAuthority (c : ApplyReviewActionToRepositoryCommand)
    (persistence : PersistenceResult) : Except PyError (Option ReviewAuthorityGrant) :=
  if c.val.review.val.action = .approveForConversion then
    persistedAction persistence (some c.val.candidateId)
      "Successful review authority mutation has no matching candidate record" fun record => do
        let grants ← grantsForReview c.val.review record.val.reviewDecisions
        requireSinglePersistedAction grants
  else .ok none

/-- `_persisted_feedback_event`. -/
def persistedFeedbackEvent (c : RecordFeedbackToRepositoryCommand)
    (persistence : PersistenceResult) : Except PyError (Option GovernedFeedbackEvent) :=
  persistedAction persistence (some c.val.candidateId)
    "Successful feedback mutation has no matching candidate record" fun record =>
      let expected := feedbackMutationIdentityFromCommand record.val.candidate c.val.feedback
      requireSinglePersistedAction (record.val.feedbackEvents.filter fun event =>
        (feedbackMutationIdentityFromEvent event).equals expected)

/-- The comparison of `_persisted_conversion_intent`. -/
def isRequestedIntent (c : RequestConversionIntentToRepositoryCommand)
    (intent : GovernedConversionIntent) : Bool :=
  let requested := c.val.conversion.val
  intent.val.intent.val.conversionIntentId = requested.conversionIntentId &&
    intent.val.intent.val.candidateId = c.val.candidateId &&
    intent.val.intent.val.target = requested.target &&
    intent.val.intent.val.requestedAtUtc == requested.requestedAtUtc &&
    intent.val.actorSubject = requested.actorSubject &&
    intent.val.idempotencyKey = c.val.idempotencyKey &&
    intent.val.reasonCodes = requested.reasonCodes

/-- `_persisted_conversion_intent`. -/
def persistedConversionIntent (c : RequestConversionIntentToRepositoryCommand)
    (persistence : PersistenceResult) : Except PyError (Option GovernedConversionIntent) :=
  persistedAction persistence (some c.val.candidateId)
    "Successful conversion mutation has no matching candidate record" fun record =>
      requireSinglePersistedAction (record.val.conversionIntents.filter (isRequestedIntent c))

/-- `_persisted_conversion_outcome`. -/
def persistedConversionOutcome (c : RecordConversionOutcomeToRepositoryCommand)
    (persistence : PersistenceResult) (identity : ConversionOutcomeIdentity) :
    Except PyError (Option GovernedConversionOutcome) :=
  persistedAction persistence none
    "Successful conversion outcome mutation has no candidate record" fun record =>
      requireSinglePersistedAction (record.val.conversionOutcomes.filter fun outcome =>
        outcome.val.conversionIntentId = c.val.conversionIntentId &&
          (GovernedConversionOutcome.identity outcome).equals identity)

/-- The comparison of `_persisted_report_evidence_pack`. -/
def isRequestedPack (c : RequestReportEvidencePackToRepositoryCommand)
    (pack : GovernedReportEvidencePack) : Bool :=
  let requested := c.val.evidencePack.val
  pack.val.reportEvidencePackId = requested.reportEvidencePackId &&
    pack.val.conversionIntentId = c.val.conversionIntentId &&
    pack.val.purpose = requested.purpose &&
    pack.val.actorSubject = requested.actorSubject &&
    pack.val.idempotencyKey = c.val.idempotencyKey &&
    pack.val.reasonCodes = requested.reasonCodes &&
    pack.val.requestedAtUtc == requested.requestedAtUtc &&
    pack.val.retentionPolicyRef = requested.retentionPolicyRef &&
    !requested.clientReadyPublicationRequested

/-- `_persisted_report_evidence_pack`. -/
def persistedReportEvidencePack (c : RequestReportEvidencePackToRepositoryCommand)
    (persistence : PersistenceResult) : Except PyError (Option GovernedReportEvidencePack) :=
  persistedAction persistence none
    "Successful report evidence mutation has no candidate record" fun record =>
      requireSinglePersistedAction (record.val.reportEvidencePacks.filter (isRequestedPack c))

/-- `value.split(",")`. -/
def splitCommas (value : String) : List String :=
  (value.toList.splitOn ',').map String.ofList

def malformedTransition : PyError :=
  .persistedActionEvidenceUnavailable "Persisted lifecycle transition evidence is malformed"

/-- `IdeaLifecycleStatus(value)`. -/
def IdeaLifecycleStatus.ofValue (value : String) : Option IdeaLifecycleStatus :=
  [.detected, .generated, .enriched, .scored, .governanceChecked, .readyForReview,
   .reviewedByAdvisor, .approved, .convertedToProposal, .convertedToManageReview,
   .convertedToReport, .accepted, .rejected, .expired, .executed, .closed].find? fun status =>
    status.value = value

/-- The transition that `_lifecycle_transition_from_audit_event` reads; `none` is
any of the faults it reports as malformed evidence. -/
def transitionFromAuditEvent (e : AuditEvent) (c : ApplyCandidateLifecycleTransitionCommand) :
    Option PersistedLifecycleTransition := do
  if e.val.outcome ≠ "accepted" then none
  let _ ← (← AuditEvent.attribute? e "source_status") |> IdeaLifecycleStatus.ofValue
  let targetStatus ← (← AuditEvent.attribute? e "target_status") |> IdeaLifecycleStatus.ofValue
  let reasonCodes := splitCommas (← AuditEvent.attribute? e "reason_codes")
  if reasonCodes.any PyText.isBlank then none
  if targetStatus ≠ c.val.targetStatus ∨
      AuditEvent.attribute? e "observed_at_utc" ≠ some c.val.changedAtUtc.isoformat ∨
      reasonCodes ≠ c.val.reasonCodes then none
  return ⟨c.val.transitionId, c.val.candidateId, targetStatus, c.val.changedAtUtc,
    e.val.occurredAtUtc, reasonCodes⟩

/-- The audit events of the transition that the command names. -/
def namesTransition (c : ApplyCandidateLifecycleTransitionCommand) (e : AuditEvent) : Bool :=
  e.val.eventType = "idea.lifecycle.transitioned" &&
    AuditEvent.attribute? e "transition_id" = some c.val.transitionId

/-- `_persisted_lifecycle_transition`. -/
def persistedLifecycleTransition (c : ApplyCandidateLifecycleTransitionCommand)
    (persistence : PersistenceResult) : Except PyError (Option PersistedLifecycleTransition) :=
  persistedAction persistence (some c.val.candidateId)
    "Successful lifecycle mutation has no matching candidate record" fun record => do
      let auditEvent ← requireSinglePersistedAction
        (record.val.auditEvents.filter (namesTransition c))
      match transitionFromAuditEvent auditEvent c with
      | some transition => return transition
      | none => throw malformedTransition

end LotusIdea

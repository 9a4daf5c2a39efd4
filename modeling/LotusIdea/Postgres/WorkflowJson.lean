import LotusIdea.Postgres.CandidateJson

/-!
# Stored decisions, feedback, intents, outcomes and packs

The JSON forms of the records a workflow appends to a candidate, in
`postgres_codecs.py`.  A record whose times and numbers are values of Python is
read back as it was written.
-/

set_option autoImplicit false

namespace LotusIdea

open Json

/-! ## Review decisions -/

/-- `_review_decision_to_json`. -/
def reviewDecisionToJson (d : GovernedReviewDecision) : Json :=
  .obj
    [("review_id", .str d.val.reviewId),
     ("candidate_id", .str d.val.candidateId),
     ("evidence_packet_id", .str d.val.evidencePacketId),
     ("evidence_content_hash", .str d.val.evidenceContentHash),
     ("source_revision_vector_digest", .str d.val.sourceRevisionVectorDigest),
     ("source_cut_posture", ofMember d.val.sourceCutPosture),
     ("candidate_material_version", .int d.val.candidateMaterialVersion),
     ("candidate_evidence_version", .int d.val.candidateEvidenceVersion),
     ("review_channel", ofMember d.val.reviewChannel),
     ("presentation_receipt_id", ofOption .str d.val.presentationReceiptId),
     ("queue_snapshot_digest", ofOption .str d.val.queueSnapshotDigest),
     ("review_policy_version", .str d.val.reviewPolicyVersion),
     ("review_authority_policy_version", .str d.val.reviewAuthorityPolicyVersion),
     ("applicability_expires_at_utc", ofOption ofTime d.val.applicabilityExpiresAtUtc),
     ("action", ofMember d.val.action),
     ("resulting_posture", ofMember d.val.resultingPosture),
     ("actor_subject", .str d.val.actorSubject),
     ("actor_role", ofMember d.val.actorRole),
     ("reason_codes", .arr (d.val.reasonCodes.map ofMember)),
     ("decided_at_utc", ofTime d.val.decidedAtUtc),
     ("accepted_at_utc", ofTime d.val.acceptedAtUtc),
     ("acceptance_time_source", ofMember d.val.acceptanceTimeSource),
     ("suppression_reason", ofOption ofMember d.val.suppressionReason),
     ("snoozed_until_utc", ofOption ofTime d.val.snoozedUntilUtc)]

/-- `_review_decision_from_json`. -/
def reviewDecisionFromJson (payload : Json) : Decoded GovernedReviewDecision := do
  let reviewId ← item readText payload "review_id"
  let candidateId ← item readText payload "candidate_id"
  let evidencePacketId ← item readText payload "evidence_packet_id"
  let evidenceContentHash ← item readText payload "evidence_content_hash"
  let sourceRevisionVectorDigest ←
    itemOr readText payload "source_revision_vector_digest" (.str "legacy:unknown")
  let sourceCutPosture ← itemOr readMember payload "source_cut_posture" (.str "unknown")
  let candidateMaterialVersion ← itemOr readInt payload "candidate_material_version" (.int 1)
  let candidateEvidenceVersion ← itemOr readInt payload "candidate_evidence_version" (.int 1)
  let reviewChannel ← itemOr readMember payload "review_channel" (.str "legacy_unverified")
  let presentationReceiptId ← optionalItem readText payload "presentation_receipt_id"
  let queueSnapshotDigest ← optionalItem readText payload "queue_snapshot_digest"
  let reviewPolicyVersion ←
    itemOr readText payload "review_policy_version" (.str "legacy-unverified")
  let reviewAuthorityPolicyVersion ←
    itemOr readText payload "review_authority_policy_version" (.str "legacy-unverified")
  let applicabilityExpiresAtUtc ← optionalItem readTime payload "applicability_expires_at_utc"
  let action ← item readMember payload "action"
  let resultingPosture ← item readMember payload "resulting_posture"
  let actorSubject ← item readText payload "actor_subject"
  let actorRole ← item readMember payload "actor_role"
  let reasonCodes ← item (readArray readMember) payload "reason_codes"
  let decidedAtUtc ← item readTime payload "decided_at_utc"
  let acceptedAtUtc ← item readTime payload "accepted_at_utc"
  let acceptanceTimeSource ← item readMember payload "acceptance_time_source"
  let suppressionReason ← optionalItem readMember payload "suppression_reason"
  let snoozedUntilUtc ← optionalItem readTime payload "snoozed_until_utc"
  construct
    { reviewId, candidateId, evidencePacketId, evidenceContentHash, sourceRevisionVectorDigest,
      sourceCutPosture, candidateMaterialVersion, candidateEvidenceVersion, reviewChannel,
      presentationReceiptId, queueSnapshotDigest, reviewPolicyVersion, action, resultingPosture,
      actorSubject, actorRole, reasonCodes, decidedAtUtc, acceptedAtUtc,
      reviewAuthorityPolicyVersion, applicabilityExpiresAtUtc, acceptanceTimeSource,
      suppressionReason, snoozedUntilUtc }

structure GovernedReviewDecision.Representable (d : GovernedReviewDecision) : Prop where
  applicabilityExpiresAtUtc : ∀ t ∈ d.val.applicabilityExpiresAtUtc, t.InRange
  decidedAtUtc : d.val.decidedAtUtc.InRange
  acceptedAtUtc : d.val.acceptedAtUtc.InRange
  snoozedUntilUtc : ∀ t ∈ d.val.snoozedUntilUtc, t.InRange

theorem reviewDecisionFromJson_toJson {d : GovernedReviewDecision}
    (representable : d.Representable) :
    reviewDecisionFromJson (reviewDecisionToJson d) = .ok d := by
  have expiry := readOptional_time (ε := PyError) representable.applicabilityExpiresAtUtc
  have decided := readTime_ofTime (ε := PyError) representable.decidedAtUtc
  have accepted := readTime_ofTime (ε := PyError) representable.acceptedAtUtc
  have snoozed := readOptional_time (ε := PyError) representable.snoozedUntilUtc
  simpa [reviewDecisionFromJson, reviewDecisionToJson, item, optionalItem, itemOr, expiry,
    decided, accepted, snoozed] using construct_val d

/-! ## Feedback -/

/-- `_feedback_event_to_json`. -/
def feedbackEventToJson (e : GovernedFeedbackEvent) : Json :=
  let feedback := e.val.feedback.val
  .obj
    [("feedback", .obj
       [("feedback_id", .str feedback.feedbackId),
        ("taxonomy_version", .str feedback.taxonomyVersion),
        ("outcome", ofMember feedback.outcome),
        ("reason", ofMember feedback.reason),
        ("actor_role", .str feedback.actorRole),
        ("recorded_at_utc", ofTime feedback.recordedAtUtc)]),
     ("candidate_id", .str e.val.candidateId),
     ("evidence_packet_id", .str e.val.evidencePacketId),
     ("evidence_content_hash", .str e.val.evidenceContentHash),
     ("source_signal_ids", ofTexts e.val.sourceSignalIds),
     ("actor_subject", .str e.val.actorSubject),
     ("actor_role", ofMember e.val.actorRole),
     ("accepted_at_utc", ofTime e.val.acceptedAtUtc),
     ("acceptance_time_source", ofMember e.val.acceptanceTimeSource),
     ("evaluation_context", .obj
       [("candidate_family", ofMember e.val.candidateFamily),
        ("candidate_identity_policy_version", .str e.val.candidateIdentityPolicyVersion),
        ("score_policy_version", ofOption .str e.val.scorePolicyVersion),
        ("score", ofOption ofDecimal e.val.score),
        ("evidence_supportability", ofMember e.val.evidenceSupportability),
        ("ranking_policy_version", .str e.val.rankingPolicyVersion),
        ("queue_priority_bucket", ofOption ofMember e.val.queuePriorityBucket)])]

def ideaFeedbackFromJson (payload : Json) : Decoded IdeaFeedback := do
  let feedbackId ← item readText payload "feedback_id"
  let taxonomyVersion ← item readText payload "taxonomy_version"
  let outcome ← item readMember payload "outcome"
  let reason ← item readMember payload "reason"
  let actorRole ← item readText payload "actor_role"
  let recordedAtUtc ← item readTime payload "recorded_at_utc"
  construct ⟨feedbackId, outcome, reason, taxonomyVersion, actorRole, recordedAtUtc⟩

/-- `_feedback_event_from_json`. -/
def feedbackEventFromJson (payload : Json) : Decoded GovernedFeedbackEvent := do
  let context ← getItem payload "evaluation_context"
  let feedback ← item ideaFeedbackFromJson payload "feedback"
  let candidateId ← item readText payload "candidate_id"
  let evidencePacketId ← item readText payload "evidence_packet_id"
  let evidenceContentHash ← item readText payload "evidence_content_hash"
  let sourceSignalIds ← item (readArray readText) payload "source_signal_ids"
  let actorSubject ← item readText payload "actor_subject"
  let actorRole ← item readMember payload "actor_role"
  let candidateFamily ← item readMember context "candidate_family"
  let candidateIdentityPolicyVersion ← item readText context "candidate_identity_policy_version"
  let scorePolicyVersion ← optionalItem readText context "score_policy_version"
  let score ← optionalItem readDecimal context "score"
  let evidenceSupportability ← item readMember context "evidence_supportability"
  let rankingPolicyVersion ← item readText context "ranking_policy_version"
  let queuePriorityBucket ← optionalItem readMember context "queue_priority_bucket"
  let acceptedAtUtc ← item readTime payload "accepted_at_utc"
  let acceptanceTimeSource ← item readMember payload "acceptance_time_source"
  construct
    { feedback, candidateId, evidencePacketId, evidenceContentHash, sourceSignalIds,
      actorSubject, actorRole, candidateFamily, candidateIdentityPolicyVersion,
      scorePolicyVersion, score, evidenceSupportability, rankingPolicyVersion,
      queuePriorityBucket, acceptedAtUtc, acceptanceTimeSource }

structure GovernedFeedbackEvent.Representable (e : GovernedFeedbackEvent) : Prop where
  recordedAtUtc : e.val.feedback.val.recordedAtUtc.InRange
  score : ∀ number ∈ e.val.score, PyDecimal.IsDecimal number
  acceptedAtUtc : e.val.acceptedAtUtc.InRange

theorem feedbackEventFromJson_toJson {e : GovernedFeedbackEvent}
    (representable : e.Representable) :
    feedbackEventFromJson (feedbackEventToJson e) = .ok e := by
  have recorded := readTime_ofTime (ε := PyError) representable.recordedAtUtc
  have score := readOptional_decimal (ε := PyError) representable.score
  have accepted := readTime_ofTime (ε := PyError) representable.acceptedAtUtc
  have feedback := construct_val (ε := PyError) e.val.feedback
  simpa [feedbackEventFromJson, feedbackEventToJson, ideaFeedbackFromJson, item, optionalItem,
    recorded, score, accepted, feedback] using construct_val e

/-! ## Conversion intents -/

def candidateEvidenceToJson (i : CandidateEvidenceIdentity) : Json :=
  .obj
    [("candidate_id", .str i.val.candidateId),
     ("material_version", .int i.val.materialVersion),
     ("evidence_version", .int i.val.evidenceVersion),
     ("evidence_packet_id", .str i.val.evidencePacketId),
     ("evidence_content_hash", .str i.val.evidenceContentHash),
     ("source_revision_vector_digest", .str i.val.sourceRevisionVectorDigest),
     ("source_cut_posture", ofMember i.val.sourceCutPosture),
     ("source_cut_authority_policy_version", .str i.val.sourceCutAuthorityPolicyVersion)]

def candidateEvidenceFromJson (payload : Json) : Decoded CandidateEvidenceIdentity := do
  let candidateId ← item readText payload "candidate_id"
  let materialVersion ← item readInt payload "material_version"
  let evidenceVersion ← item readInt payload "evidence_version"
  let evidencePacketId ← item readText payload "evidence_packet_id"
  let evidenceContentHash ← item readText payload "evidence_content_hash"
  let sourceRevisionVectorDigest ←
    itemOr readText payload "source_revision_vector_digest" (.str "legacy:unknown")
  let sourceCutPosture ← itemOr readMember payload "source_cut_posture" (.str "unknown")
  let sourceCutAuthorityPolicyVersion ←
    itemOr readText payload "source_cut_authority_policy_version" (.str "legacy-unverified")
  construct
    { candidateId, materialVersion, evidenceVersion, evidencePacketId, evidenceContentHash,
      sourceRevisionVectorDigest, sourceCutPosture, sourceCutAuthorityPolicyVersion }

/-- `_review_authority_grant_to_json`. -/
def reviewAuthorityGrantToJson (g : ReviewAuthorityGrant) : Json :=
  .obj
    [("review_id", .str g.val.reviewId),
     ("candidate_evidence", candidateEvidenceToJson g.val.candidateEvidence),
     ("review_channel", ofMember g.val.reviewChannel),
     ("actor_subject", .str g.val.actorSubject),
     ("actor_role", .str g.val.actorRole),
     ("review_policy_version", .str g.val.reviewPolicyVersion),
     ("authority_policy_version", .str g.val.authorityPolicyVersion),
     ("accepted_at_utc", ofTime g.val.acceptedAtUtc),
     ("applicability_expires_at_utc", ofOption ofTime g.val.applicabilityExpiresAtUtc),
     ("presentation_receipt_id", ofOption .str g.val.presentationReceiptId),
     ("queue_snapshot_digest", ofOption .str g.val.queueSnapshotDigest),
     ("status", ofMember g.val.status)]

/-- `_review_authority_grant_from_json` of a grant that is there. -/
def reviewAuthorityGrantFromJson (payload : Json) : Decoded ReviewAuthorityGrant := do
  let reviewId ← item readText payload "review_id"
  let candidateEvidence ← item candidateEvidenceFromJson payload "candidate_evidence"
  let reviewChannel ← item readMember payload "review_channel"
  let actorSubject ← item readText payload "actor_subject"
  let actorRole ← item readText payload "actor_role"
  let reviewPolicyVersion ← item readText payload "review_policy_version"
  let authorityPolicyVersion ←
    itemOr readText payload "authority_policy_version" (.str "legacy-unverified")
  let acceptedAtUtc ← item readTime payload "accepted_at_utc"
  let applicabilityExpiresAtUtc ← optionalItem readTime payload "applicability_expires_at_utc"
  let presentationReceiptId ← optionalItem readText payload "presentation_receipt_id"
  let queueSnapshotDigest ← optionalItem readText payload "queue_snapshot_digest"
  let status ← item readMember payload "status"
  construct
    { reviewId, candidateEvidence, reviewChannel, actorSubject, actorRole, reviewPolicyVersion,
      acceptedAtUtc, applicabilityExpiresAtUtc, authorityPolicyVersion, presentationReceiptId,
      queueSnapshotDigest, status }

structure ReviewAuthorityGrant.Representable (g : ReviewAuthorityGrant) : Prop where
  acceptedAtUtc : g.val.acceptedAtUtc.InRange
  applicabilityExpiresAtUtc : ∀ t ∈ g.val.applicabilityExpiresAtUtc, t.InRange

@[simp] theorem candidateEvidenceFromJson_toJson (i : CandidateEvidenceIdentity) :
    candidateEvidenceFromJson (candidateEvidenceToJson i) = .ok i := by
  simpa [candidateEvidenceFromJson, candidateEvidenceToJson, item, itemOr] using construct_val i

theorem reviewAuthorityGrantFromJson_toJson {g : ReviewAuthorityGrant}
    (representable : g.Representable) :
    reviewAuthorityGrantFromJson (reviewAuthorityGrantToJson g) = .ok g := by
  have accepted := readTime_ofTime (ε := PyError) representable.acceptedAtUtc
  have expiry := readOptional_time (ε := PyError) representable.applicabilityExpiresAtUtc
  simpa [reviewAuthorityGrantFromJson, reviewAuthorityGrantToJson, item, optionalItem, itemOr,
    accepted, expiry] using construct_val g

/-- `_conversion_intent_to_json`. -/
def conversionIntentToJson (i : GovernedConversionIntent) : Json :=
  let intent := i.val.intent.val
  .obj
    [("intent", .obj
       [("conversion_intent_id", .str intent.conversionIntentId),
        ("candidate_id", .str intent.candidateId),
        ("target", ofMember intent.target),
        ("source_status", ofMember intent.sourceStatus),
        ("requested_at_utc", ofTime intent.requestedAtUtc)]),
     ("evidence_packet_id", .str i.val.evidencePacketId),
     ("evidence_content_hash", .str i.val.evidenceContentHash),
     ("source_revision_vector_digest", .str i.val.sourceRevisionVectorDigest),
     ("source_cut_posture", ofMember i.val.sourceCutPosture),
     ("source_signal_ids", ofTexts i.val.sourceSignalIds),
     ("actor_subject", .str i.val.actorSubject),
     ("idempotency_key", .str i.val.idempotencyKey),
     ("reason_codes", .arr (i.val.reasonCodes.map ofMember)),
     ("target_source_authority", ofMember i.val.targetSourceAuthority),
     ("accepted_at_utc", ofTime i.val.acceptedAtUtc),
     ("acceptance_time_source", ofMember i.val.acceptanceTimeSource),
     ("boundary", ofMember i.val.boundary),
     ("review_authority_grant",
       ofOption reviewAuthorityGrantToJson i.val.reviewAuthorityGrant)]

def ideaConversionIntentFromJson (payload : Json) : Decoded IdeaConversionIntent := do
  let conversionIntentId ← item readText payload "conversion_intent_id"
  let candidateId ← item readText payload "candidate_id"
  let target ← item readMember payload "target"
  let sourceStatus ← item readMember payload "source_status"
  let requestedAtUtc ← item readTime payload "requested_at_utc"
  construct ⟨conversionIntentId, candidateId, target, sourceStatus, requestedAtUtc⟩

/-- `_conversion_intent_from_json`. -/
def conversionIntentFromJson (payload : Json) : Decoded GovernedConversionIntent := do
  let intent ← item ideaConversionIntentFromJson payload "intent"
  let evidencePacketId ← item readText payload "evidence_packet_id"
  let evidenceContentHash ← item readText payload "evidence_content_hash"
  let sourceRevisionVectorDigest ←
    itemOr readText payload "source_revision_vector_digest" (.str "legacy:unknown")
  let sourceCutPosture ← itemOr readMember payload "source_cut_posture" (.str "unknown")
  let sourceSignalIds ← item (readArray readText) payload "source_signal_ids"
  let actorSubject ← item readText payload "actor_subject"
  let idempotencyKey ← item readText payload "idempotency_key"
  let reasonCodes ← item (readArray readMember) payload "reason_codes"
  let targetSourceAuthority ← item readMember payload "target_source_authority"
  let acceptedAtUtc ← item readTime payload "accepted_at_utc"
  let reviewAuthorityGrant ←
    optionalItem reviewAuthorityGrantFromJson payload "review_authority_grant"
  let acceptanceTimeSource ← item readMember payload "acceptance_time_source"
  let boundary ← item readMember payload "boundary"
  construct
    { intent, evidencePacketId, evidenceContentHash, sourceRevisionVectorDigest,
      sourceCutPosture, sourceSignalIds, actorSubject, idempotencyKey, reasonCodes,
      targetSourceAuthority, acceptedAtUtc, reviewAuthorityGrant, acceptanceTimeSource,
      boundary }

structure GovernedConversionIntent.Representable (i : GovernedConversionIntent) : Prop where
  requestedAtUtc : i.val.intent.val.requestedAtUtc.InRange
  acceptedAtUtc : i.val.acceptedAtUtc.InRange
  reviewAuthorityGrant : ∀ g ∈ i.val.reviewAuthorityGrant, g.Representable

theorem conversionIntentFromJson_toJson {i : GovernedConversionIntent}
    (representable : i.Representable) :
    conversionIntentFromJson (conversionIntentToJson i) = .ok i := by
  have requested := readTime_ofTime (ε := PyError) representable.requestedAtUtc
  have accepted := readTime_ofTime (ε := PyError) representable.acceptedAtUtc
  have intent := construct_val (ε := PyError) i.val.intent
  have grant : readOptional reviewAuthorityGrantFromJson
      (ofOption reviewAuthorityGrantToJson i.val.reviewAuthorityGrant) =
        .ok i.val.reviewAuthorityGrant :=
    readOptional_back _ (fun _ null => nomatch null) fun g member =>
      reviewAuthorityGrantFromJson_toJson (representable.reviewAuthorityGrant g member)
  simpa [conversionIntentFromJson, conversionIntentToJson, ideaConversionIntentFromJson, item,
    optionalItem, itemOr, requested, accepted, intent, grant] using construct_val i

/-! ## Conversion outcomes -/

/-- `_conversion_outcome_to_json`. -/
def conversionOutcomeToJson (o : GovernedConversionOutcome) : Json :=
  let outcome := o.val.outcome.val
  .obj
    [("outcome", .obj
       [("conversion_outcome_id", .str outcome.conversionOutcomeId),
        ("conversion_intent_id", .str outcome.conversionIntentId),
        ("status", ofMember outcome.status),
        ("downstream_reference", ofOption .str outcome.downstreamReference),
        ("recorded_at_utc", ofTime outcome.recordedAtUtc)]),
     ("conversion_intent_id", .str o.val.conversionIntentId),
     ("target", ofMember o.val.target),
     ("source_system", ofMember o.val.sourceSystem),
     ("boundary", ofMember o.val.boundary),
     ("source_event_version", .int o.val.sourceEventVersion),
     ("actor_subject", .str o.val.actorSubject),
     ("accepted_at_utc", ofTime o.val.acceptedAtUtc),
     ("acceptance_time_source", ofMember o.val.acceptanceTimeSource),
     ("supersedes_conversion_outcome_id", ofOption .str o.val.supersedesConversionOutcomeId),
     ("correction_reason", ofOption .str o.val.correctionReason)]

def ideaConversionOutcomeFromJson (payload : Json) : Decoded IdeaConversionOutcome := do
  let conversionOutcomeId ← item readText payload "conversion_outcome_id"
  let conversionIntentId ← item readText payload "conversion_intent_id"
  let status ← item readMember payload "status"
  let downstreamReference ← optionalItem readText payload "downstream_reference"
  let recordedAtUtc ← item readTime payload "recorded_at_utc"
  construct ⟨conversionOutcomeId, conversionIntentId, status, downstreamReference, recordedAtUtc⟩

/-- `_conversion_outcome_from_json`. -/
def conversionOutcomeFromJson (payload : Json) : Decoded GovernedConversionOutcome := do
  let outcome ← item ideaConversionOutcomeFromJson payload "outcome"
  let conversionIntentId ← item readText payload "conversion_intent_id"
  let target ← item readMember payload "target"
  let sourceSystem ← item readMember payload "source_system"
  let boundary ← item readMember payload "boundary"
  let sourceEventVersion ← item readInt payload "source_event_version"
  let actorSubject ← item readText payload "actor_subject"
  let acceptedAtUtc ← item readTime payload "accepted_at_utc"
  let acceptanceTimeSource ← item readMember payload "acceptance_time_source"
  let supersedesConversionOutcomeId ←
    optionalItem readText payload "supersedes_conversion_outcome_id"
  let correctionReason ← optionalItem readText payload "correction_reason"
  construct
    { outcome, conversionIntentId, target, sourceSystem, boundary, sourceEventVersion,
      actorSubject, acceptedAtUtc, acceptanceTimeSource, supersedesConversionOutcomeId,
      correctionReason }

structure GovernedConversionOutcome.Representable (o : GovernedConversionOutcome) : Prop where
  recordedAtUtc : o.val.outcome.val.recordedAtUtc.InRange
  acceptedAtUtc : o.val.acceptedAtUtc.InRange

theorem conversionOutcomeFromJson_toJson {o : GovernedConversionOutcome}
    (representable : o.Representable) :
    conversionOutcomeFromJson (conversionOutcomeToJson o) = .ok o := by
  have recorded := readTime_ofTime (ε := PyError) representable.recordedAtUtc
  have accepted := readTime_ofTime (ε := PyError) representable.acceptedAtUtc
  have outcome := construct_val (ε := PyError) o.val.outcome
  simpa [conversionOutcomeFromJson, conversionOutcomeToJson, ideaConversionOutcomeFromJson, item,
    optionalItem, recorded, accepted, outcome] using construct_val o

/-! ## Report evidence packs -/

/-- `_report_source_summary_to_json`. -/
def reportSourceSummaryToJson (s : ReportEvidenceSourceSummary) : Json :=
  .obj
    [("product_id", .str s.productId),
     ("source_system", ofMember s.sourceSystem),
     ("product_version", .str s.productVersion),
     ("as_of_date", .str s.asOfDate),
     ("generated_at_utc", ofTime s.generatedAtUtc),
     ("content_hash", .str s.contentHash),
     ("data_quality_status", .str s.dataQualityStatus),
     ("freshness", .str s.freshness)]

/-- `_report_source_summary_from_json`. -/
def reportSourceSummaryFromJson (payload : Json) : Decoded ReportEvidenceSourceSummary := do
  let productId ← item readText payload "product_id"
  let sourceSystem ← item readMember payload "source_system"
  let productVersion ← item readText payload "product_version"
  let asOfDate ← item readText payload "as_of_date"
  let generatedAtUtc ← item readTime payload "generated_at_utc"
  let contentHash ← item readText payload "content_hash"
  let dataQualityStatus ← item readText payload "data_quality_status"
  let freshness ← item readText payload "freshness"
  return { productId, sourceSystem, productVersion, asOfDate, generatedAtUtc, contentHash,
           dataQualityStatus, freshness }

/-- `_report_evidence_pack_to_json`. -/
def reportEvidencePackToJson (p : GovernedReportEvidencePack) : Json :=
  .obj
    [("report_evidence_pack_id", .str p.val.reportEvidencePackId),
     ("conversion_intent_id", .str p.val.conversionIntentId),
     ("candidate_id", .str p.val.candidateId),
     ("evidence_packet_id", .str p.val.evidencePacketId),
     ("evidence_content_hash", .str p.val.evidenceContentHash),
     ("source_signal_ids", ofTexts p.val.sourceSignalIds),
     ("source_summaries", .arr (p.val.sourceSummaries.map reportSourceSummaryToJson)),
     ("purpose", ofMember p.val.purpose),
     ("actor_subject", .str p.val.actorSubject),
     ("idempotency_key", .str p.val.idempotencyKey),
     ("reason_codes", .arr (p.val.reasonCodes.map ofMember)),
     ("requested_at_utc", ofTime p.val.requestedAtUtc),
     ("retention_policy_ref", .str p.val.retentionPolicyRef),
     ("report_source_authority", ofMember p.val.reportSourceAuthority),
     ("render_source_authority", ofMember p.val.renderSourceAuthority),
     ("archive_source_authority", ofMember p.val.archiveSourceAuthority),
     ("boundary", ofMember p.val.boundary)]

/-- `_report_evidence_pack_from_json`. -/
def reportEvidencePackFromJson (payload : Json) : Decoded GovernedReportEvidencePack := do
  let reportEvidencePackId ← item readText payload "report_evidence_pack_id"
  let conversionIntentId ← item readText payload "conversion_intent_id"
  let candidateId ← item readText payload "candidate_id"
  let evidencePacketId ← item readText payload "evidence_packet_id"
  let evidenceContentHash ← item readText payload "evidence_content_hash"
  let sourceSignalIds ← item (readArray readText) payload "source_signal_ids"
  let sourceSummaries ← item (readArray reportSourceSummaryFromJson) payload "source_summaries"
  let purpose ← item readMember payload "purpose"
  let actorSubject ← item readText payload "actor_subject"
  let idempotencyKey ← item readText payload "idempotency_key"
  let reasonCodes ← item (readArray readMember) payload "reason_codes"
  let requestedAtUtc ← item readTime payload "requested_at_utc"
  let retentionPolicyRef ← item readText payload "retention_policy_ref"
  let reportSourceAuthority ← item readMember payload "report_source_authority"
  let renderSourceAuthority ← item readMember payload "render_source_authority"
  let archiveSourceAuthority ← item readMember payload "archive_source_authority"
  let boundary ← item readMember payload "boundary"
  construct
    { reportEvidencePackId, conversionIntentId, candidateId, evidencePacketId,
      evidenceContentHash, sourceSignalIds, sourceSummaries, purpose, actorSubject,
      idempotencyKey, reasonCodes, requestedAtUtc, retentionPolicyRef, reportSourceAuthority,
      renderSourceAuthority, archiveSourceAuthority, boundary }

structure GovernedReportEvidencePack.Representable (p : GovernedReportEvidencePack) : Prop where
  sourceSummaries : ∀ s ∈ p.val.sourceSummaries, s.generatedAtUtc.InRange
  requestedAtUtc : p.val.requestedAtUtc.InRange

theorem reportSourceSummaryFromJson_toJson {s : ReportEvidenceSourceSummary}
    (inRange : s.generatedAtUtc.InRange) :
    reportSourceSummaryFromJson (reportSourceSummaryToJson s) = .ok s := by
  have generated := readTime_ofTime (ε := PyError) inRange
  simp [reportSourceSummaryFromJson, reportSourceSummaryToJson, item, generated, pure,
    Except.pure]

theorem reportEvidencePackFromJson_toJson {p : GovernedReportEvidencePack}
    (representable : p.Representable) :
    reportEvidencePackFromJson (reportEvidencePackToJson p) = .ok p := by
  have requested := readTime_ofTime (ε := PyError) representable.requestedAtUtc
  have summaries := readArray_back p.val.sourceSummaries fun s member =>
    reportSourceSummaryFromJson_toJson (representable.sourceSummaries s member)
  simpa [reportEvidencePackFromJson, reportEvidencePackToJson, item, requested,
    summaries] using construct_val p

end LotusIdea

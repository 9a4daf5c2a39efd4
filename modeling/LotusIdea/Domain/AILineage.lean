import LotusIdea.Domain.Control
import LotusIdea.Domain.Ideas
import LotusIdea.Foundation.ReplayRegistry

/-!
# AI explanation lineage

`ai_lineage_persistence.py` with the receipts of `lotus_ai_run_attestation.py`
and `ai_provider_retention.py`, and the two replay registries that bind the
identities of a receipt to one explanation request.  Of an explanation result
only the fields that its lineage record takes over are modelled.
-/

set_option autoImplicit false

namespace LotusIdea

/-! ## Receipts -/

/-- `^[0-9a-f]{64}$`. -/
def isSha256Hex (value : String) : Bool :=
  decide (value.toList.length = 64) && value.toList.all Sha256.isHexDigit

def requireSha256Hex (value fieldName : String) : Bool × PyError :=
  (!isSha256Hex value, .valueError (fieldName ++ " must be a lowercase SHA-256 digest"))

/-- A governed reference in which a slash may stand as well. -/
def isSourceSafeReference (value : String) : Bool :=
  match value.toList with
  | [] => false
  | first :: rest =>
      first.isAlphanum && decide (2 ≤ rest.length) && decide (rest.length ≤ 255) &&
        rest.all fun c =>
          c.isAlphanum || c = '.' || c = '_' || c = ':' || c = '/' || c = '-'

def requireSourceSafeReference (value fieldName : String) : Bool × PyError :=
  (!isSourceSafeReference value, .valueError (fieldName ++ " must be a source-safe reference"))

structure VerifiedLotusAIRunAttestationReceiptFields where
  runId : String
  consumerRequestId : String
  replayNonce : String
  keyId : String
  rotationEpoch : Int
  providerId : String
  providerMode : String
  modelId : String
  modelVersion : String
  modelRiskApprovalRef : String
  evaluatorId : String
  evaluatorPolicyVersion : String
  inputEvidenceSha256 : String
  outputContentSha256 : String
  issuedAtUtc : DateTime
  expiresAtUtc : DateTime
  verifiedAtUtc : DateTime
  deriving DecidableEq

def VerifiedLotusAIRunAttestationReceiptFields.checks
    (r : VerifiedLotusAIRunAttestationReceiptFields) : List (Bool × PyError) :=
  [requireText r.runId "run_id", requireText r.consumerRequestId "consumer_request_id",
   requireText r.keyId "key_id", requireText r.providerId "provider_id",
   requireText r.providerMode "provider_mode", requireText r.modelId "model_id",
   requireText r.modelVersion "model_version",
   requireText r.modelRiskApprovalRef "model_risk_approval_ref",
   requireText r.evaluatorId "evaluator_id",
   requireText r.evaluatorPolicyVersion "evaluator_policy_version",
   (decide (r.rotationEpoch < 1), .valueError "rotation_epoch must be positive"),
   requireSha256Hex r.replayNonce "replay_nonce",
   requireSha256Hex r.inputEvidenceSha256 "input_evidence_sha256",
   requireSha256Hex r.outputContentSha256 "output_content_sha256",
   requireAware r.issuedAtUtc "issued_at_utc", requireAware r.expiresAtUtc "expires_at_utc",
   requireAware r.verifiedAtUtc "verified_at_utc",
   (!(decide (r.issuedAtUtc ≤ r.verifiedAtUtc) && decide (r.verifiedAtUtc < r.expiresAtUtc)),
     .valueError "verified receipt must be inside the attestation validity window")]

abbrev VerifiedLotusAIRunAttestationReceipt :=
  Checked VerifiedLotusAIRunAttestationReceiptFields.checks

inductive AIProviderRetentionOutcome where
  | noProviderStorage
  | retentionConfirmed
  | deletionConfirmed
  | providerFailure
  deriving DecidableEq, Repr

def AIProviderRetentionOutcome.value : AIProviderRetentionOutcome → String
  | .noProviderStorage => "NO_PROVIDER_STORAGE"
  | .retentionConfirmed => "RETENTION_CONFIRMED"
  | .deletionConfirmed => "DELETION_CONFIRMED"
  | .providerFailure => "PROVIDER_FAILURE"

structure VerifiedAIProviderRetentionReceiptFields where
  confirmationId : String
  workflowRunId : String
  tenantId : String
  providerConfirmationRef : String
  retentionPolicyId : String
  outcome : AIProviderRetentionOutcome
  evidenceSha256 : String
  providerFailureCode : Option String
  deletionConfirmed : Bool
  supportabilityStatus : String
  replayNonce : String
  keyId : String
  rotationEpoch : Int
  providerDecisionAtUtc : DateTime
  issuedAtUtc : DateTime
  expiresAtUtc : DateTime
  verifiedAtUtc : DateTime
  deriving DecidableEq

/-- `_require_utc` of `ai_provider_retention.py`. -/
def requireProviderUtc (value : DateTime) (fieldName : String) : Bool × PyError :=
  (!value.isUtc, .valueError (fieldName ++ " must be timezone-aware UTC"))

def VerifiedAIProviderRetentionReceiptFields.checks
    (r : VerifiedAIProviderRetentionReceiptFields) : List (Bool × PyError) :=
  [requireSourceSafeReference r.confirmationId "confirmation_id",
   requireSourceSafeReference r.workflowRunId "workflow_run_id",
   requireSourceSafeReference r.tenantId "tenant_id",
   requireSourceSafeReference r.providerConfirmationRef "provider_confirmation_ref",
   requireSourceSafeReference r.retentionPolicyId "retention_policy_id",
   requireSourceSafeReference r.supportabilityStatus "supportability_status",
   requireSourceSafeReference r.keyId "key_id",
   requireSha256Hex r.evidenceSha256 "evidence_sha256",
   requireSha256Hex r.replayNonce "replay_nonce",
   (decide (r.rotationEpoch < 1), .valueError "rotation_epoch must be positive"),
   requireProviderUtc r.providerDecisionAtUtc "provider_decision_at_utc",
   requireProviderUtc r.issuedAtUtc "issued_at_utc",
   requireProviderUtc r.expiresAtUtc "expires_at_utc",
   requireProviderUtc r.verifiedAtUtc "verified_at_utc",
   (!(decide (r.issuedAtUtc ≤ r.verifiedAtUtc) && decide (r.verifiedAtUtc < r.expiresAtUtc)),
     .valueError "verified provider retention receipt is outside its validity window")]

abbrev VerifiedAIProviderRetentionReceipt :=
  Checked VerifiedAIProviderRetentionReceiptFields.checks

/-! ## Explanation results -/

inductive AIExecutionProvenancePosture where
  | notApplicableFallback
  | unattestedLocalTestFixture
  | preAttestationUnverifiable
  | lotusAiAttestationVerified
  deriving DecidableEq, Repr

def AIExecutionProvenancePosture.value : AIExecutionProvenancePosture → String
  | .notApplicableFallback => "not_applicable_fallback"
  | .unattestedLocalTestFixture => "unattested_local_test_fixture"
  | .preAttestationUnverifiable => "pre_attestation_unverifiable"
  | .lotusAiAttestationVerified => "lotus_ai_attestation_verified"

inductive AIWorkflowPurpose where
  | missingEvidenceCheck
  | unsupportedClaimVerification
  | advisorRationaleDraft
  | meetingPreparationDraft
  deriving DecidableEq, Repr

def AIWorkflowPurpose.value : AIWorkflowPurpose → String
  | .missingEvidenceCheck => "missing_evidence_check"
  | .unsupportedClaimVerification => "unsupported_claim_verification"
  | .advisorRationaleDraft => "advisor_rationale_draft"
  | .meetingPreparationDraft => "meeting_preparation_draft"

inductive AIExplanationPosture where
  | readyForAdvisorReview
  | fallbackUsed
  | blockedUnsupportedClaim
  | blockedForbiddenAction
  deriving DecidableEq, Repr

def AIExplanationPosture.value : AIExplanationPosture → String
  | .readyForAdvisorReview => "ready_for_advisor_review"
  | .fallbackUsed => "fallback_used"
  | .blockedUnsupportedClaim => "blocked_unsupported_claim"
  | .blockedForbiddenAction => "blocked_forbidden_action"

inductive AIVerifierOutcome where
  | notRun
  | passed
  | failedUnsupportedClaim
  | failedForbiddenAction
  | failedActionContent
  deriving DecidableEq, Repr

def AIVerifierOutcome.value : AIVerifierOutcome → String
  | .notRun => "not_run"
  | .passed => "passed"
  | .failedUnsupportedClaim => "failed_unsupported_claim"
  | .failedForbiddenAction => "failed_forbidden_action"
  | .failedActionContent => "failed_action_content"

inductive AIFallbackReason where
  | aiUnavailable
  | unsupportedEvidence
  | redactionRequired
  | workflowNotApproved
  deriving DecidableEq, Repr

def AIFallbackReason.value : AIFallbackReason → String
  | .aiUnavailable => "ai_unavailable"
  | .unsupportedEvidence => "unsupported_evidence"
  | .redactionRequired => "redaction_required"
  | .workflowNotApproved => "workflow_not_approved"

inductive AIProposedActionType where
  | advisorReview
  | requestMissingEvidence
  | finalInvestmentRecommendation
  | suitabilityApproval
  | complianceApproval
  | mandateApproval
  | tradeOrOrder
  | clientCommunication
  deriving DecidableEq, Repr

def AIProposedActionType.value : AIProposedActionType → String
  | .advisorReview => "advisor_review"
  | .requestMissingEvidence => "request_missing_evidence"
  | .finalInvestmentRecommendation => "final_investment_recommendation"
  | .suitabilityApproval => "suitability_approval"
  | .complianceApproval => "compliance_approval"
  | .mandateApproval => "mandate_approval"
  | .tradeOrOrder => "trade_or_order"
  | .clientCommunication => "client_communication"

def aiActionPolicyVersion : String := "lotus-idea.ai-action-content-policy.v1"

structure AIOutputIntegrityFields where
  version : String
  digest : String
  deriving DecidableEq

def AIOutputIntegrityFields.checks (i : AIOutputIntegrityFields) : List (Bool × PyError) :=
  [(PyText.isBlank i.version, .valueError "output integrity version is required"),
   (!PyText.startsWith i.digest sha256DigestStart || decide (i.digest.toList.length ≠ 71),
     .valueError "output integrity digest must be a sha256 digest")]

abbrev AIOutputIntegrity := Checked AIOutputIntegrityFields.checks

structure AIWorkflowPackRef where
  workflowPackId : String
  workflowPackVersion : String
  purpose : AIWorkflowPurpose

structure RedactedIdeaEvidence where
  candidateId : String
  evidencePacketId : String
  evidenceContentHash : String
  sourceRevisionVectorDigest : String
  sourceCutPosture : SourceCutPosture

structure AIExplanationRequest where
  requestId : String
  actorSubject : String
  workflowPack : AIWorkflowPackRef
  redactedEvidence : RedactedIdeaEvidence
  requestedAtUtc : DateTime

/-- Claims and proposed actions are kept as their ids and types. -/
structure AIWorkflowOutput where
  outputId : String
  claimIds : List String
  proposedActionTypes : List AIProposedActionType
  verifierRanAtUtc : DateTime

structure AIExplanationResult where
  request : AIExplanationRequest
  posture : AIExplanationPosture
  verifierOutcome : AIVerifierOutcome
  reasonCodes : List ReasonCode
  auditEvent : AuditEvent
  outputIntegrity : AIOutputIntegrity
  executionProvenancePosture : AIExecutionProvenancePosture
  output : Option AIWorkflowOutput := none
  fallbackReason : Option AIFallbackReason := none

/-! ## Lineage records -/

structure AIExplanationLineageRecordFields where
  requestId : String
  candidateId : String
  evidencePacketId : String
  evidenceContentHash : String
  sourceRevisionVectorDigest : String
  sourceCutPosture : SourceCutPosture
  workflowPackId : String
  workflowPackVersion : String
  purpose : String
  posture : String
  verifierOutcome : String
  fallbackUsed : Bool
  fallbackReason : Option String
  reasonCodes : List String
  outputId : Option String
  claimIds : List String
  proposedActionTypes : List String
  actionPolicyVersion : String
  outputIntegrityVersion : String
  outputContentDigest : String
  executionProvenancePosture : AIExecutionProvenancePosture
  actorSubject : String
  requestedAtUtc : DateTime
  evaluatedAtUtc : DateTime
  grantsDownstreamAuthority : Bool
  lineageHash : String
  attestationReceipt : Option VerifiedLotusAIRunAttestationReceipt := none
  providerRetentionReceipt : Option VerifiedAIProviderRetentionReceipt := none
  deriving DecidableEq

def AIExplanationLineageRecordFields.checks (l : AIExplanationLineageRecordFields) :
    List (Bool × PyError) :=
  [requireText l.requestId "request_id", requireText l.candidateId "candidate_id",
   requireText l.evidencePacketId "evidence_packet_id",
   requireText l.evidenceContentHash "evidence_content_hash",
   requireText l.sourceRevisionVectorDigest "source_revision_vector_digest",
   requireText l.workflowPackId "workflow_pack_id",
   requireText l.workflowPackVersion "workflow_pack_version", requireText l.purpose "purpose",
   requireText l.posture "posture", requireText l.verifierOutcome "verifier_outcome",
   requireText l.actorSubject "actor_subject",
   requireText l.actionPolicyVersion "action_policy_version",
   requireText l.outputIntegrityVersion "output_integrity_version",
   requireText l.outputContentDigest "output_content_digest",
   requireText l.lineageHash "lineage_hash",
   requireOptionalText l.fallbackReason "fallback_reason",
   (l.reasonCodes.isEmpty, .valueError "reason_codes is required"),
   requireAware l.requestedAtUtc "requested_at_utc",
   requireAware l.evaluatedAtUtc "evaluated_at_utc"] ++
  AIOutputIntegrityFields.checks ⟨l.outputIntegrityVersion, l.outputContentDigest⟩ ++
  [((l.executionProvenancePosture = .lotusAiAttestationVerified) !=
       l.attestationReceipt.isSome,
     .valueError
       "verified execution provenance and attestation receipt must be present together")]

abbrev AIExplanationLineageRecord := Checked AIExplanationLineageRecordFields.checks

/-- `_validate_ai_lineage_receipts`. -/
def aiLineageReceiptChecks (result : AIExplanationResult)
    (attestationReceipt : Option VerifiedLotusAIRunAttestationReceipt)
    (providerRetentionReceipt : Option VerifiedAIProviderRetentionReceipt) :
    List (Bool × PyError) :=
  (attestationReceipt.any fun receipt =>
      receipt.val.consumerRequestId != result.request.requestId,
    .valueError "attestation receipt request does not match AI explanation request") ::
  match providerRetentionReceipt with
  | none => []
  | some provider =>
      [(attestationReceipt.isNone,
         .valueError "provider retention receipt requires a verified run attestation"),
       (attestationReceipt.any fun receipt =>
           provider.val.workflowRunId != receipt.val.runId,
         .valueError "provider retention receipt run does not match run attestation")]

/-- `_ai_lineage_evaluated_at_utc`. -/
def aiLineageEvaluatedAtUtc (result : AIExplanationResult) : DateTime :=
  result.output.elim result.auditEvent.val.occurredAtUtc AIWorkflowOutput.verifierRanAtUtc

def attestationReceiptPayload (r : VerifiedLotusAIRunAttestationReceipt) : Json :=
  .obj
    [("run_id", .str r.val.runId), ("consumer_request_id", .str r.val.consumerRequestId),
     ("replay_nonce", .str r.val.replayNonce), ("key_id", .str r.val.keyId),
     ("rotation_epoch", .int r.val.rotationEpoch), ("provider_id", .str r.val.providerId),
     ("provider_mode", .str r.val.providerMode), ("model_id", .str r.val.modelId),
     ("model_version", .str r.val.modelVersion),
     ("model_risk_approval_ref", .str r.val.modelRiskApprovalRef),
     ("evaluator_id", .str r.val.evaluatorId),
     ("evaluator_policy_version", .str r.val.evaluatorPolicyVersion),
     ("input_evidence_sha256", .str r.val.inputEvidenceSha256),
     ("output_content_sha256", .str r.val.outputContentSha256),
     ("issued_at_utc", .str r.val.issuedAtUtc.isoformat),
     ("expires_at_utc", .str r.val.expiresAtUtc.isoformat),
     ("verified_at_utc", .str r.val.verifiedAtUtc.isoformat)]

def aiProviderRetentionReceiptToMapping (r : VerifiedAIProviderRetentionReceipt) : Json :=
  .obj
    [("confirmation_id", .str r.val.confirmationId),
     ("workflow_run_id", .str r.val.workflowRunId), ("tenant_id", .str r.val.tenantId),
     ("provider_confirmation_ref", .str r.val.providerConfirmationRef),
     ("retention_policy_id", .str r.val.retentionPolicyId),
     ("outcome", .str r.val.outcome.value), ("evidence_sha256", .str r.val.evidenceSha256),
     ("provider_failure_code", optionalText r.val.providerFailureCode),
     ("deletion_confirmed", .bool r.val.deletionConfirmed),
     ("supportability_status", .str r.val.supportabilityStatus),
     ("replay_nonce", .str r.val.replayNonce), ("key_id", .str r.val.keyId),
     ("rotation_epoch", .int r.val.rotationEpoch),
     ("provider_decision_at_utc", .str r.val.providerDecisionAtUtc.isoformat),
     ("issued_at_utc", .str r.val.issuedAtUtc.isoformat),
     ("expires_at_utc", .str r.val.expiresAtUtc.isoformat),
     ("verified_at_utc", .str r.val.verifiedAtUtc.isoformat)]

/-- `_ai_lineage_record_from_result` before its hash is known. -/
def aiLineageFields (result : AIExplanationResult)
    (attestationReceipt : Option VerifiedLotusAIRunAttestationReceipt)
    (providerRetentionReceipt : Option VerifiedAIProviderRetentionReceipt)
    (lineageHash : String) : AIExplanationLineageRecordFields where
  requestId := result.request.requestId
  candidateId := result.request.redactedEvidence.candidateId
  evidencePacketId := result.request.redactedEvidence.evidencePacketId
  evidenceContentHash := result.request.redactedEvidence.evidenceContentHash
  sourceRevisionVectorDigest := result.request.redactedEvidence.sourceRevisionVectorDigest
  sourceCutPosture := result.request.redactedEvidence.sourceCutPosture
  workflowPackId := result.request.workflowPack.workflowPackId
  workflowPackVersion := result.request.workflowPack.workflowPackVersion
  purpose := result.request.workflowPack.purpose.value
  posture := result.posture.value
  verifierOutcome := result.verifierOutcome.value
  fallbackUsed := result.fallbackReason.isSome
  fallbackReason := result.fallbackReason.map AIFallbackReason.value
  reasonCodes := result.reasonCodes.map ReasonCode.value
  outputId := result.output.map AIWorkflowOutput.outputId
  claimIds := result.output.elim [] AIWorkflowOutput.claimIds
  proposedActionTypes := result.output.elim [] fun output =>
    output.proposedActionTypes.map AIProposedActionType.value
  actionPolicyVersion := aiActionPolicyVersion
  outputIntegrityVersion := result.outputIntegrity.val.version
  outputContentDigest := result.outputIntegrity.val.digest
  executionProvenancePosture := result.executionProvenancePosture
  actorSubject := result.request.actorSubject
  requestedAtUtc := result.request.requestedAtUtc
  evaluatedAtUtc := aiLineageEvaluatedAtUtc result
  grantsDownstreamAuthority := false
  lineageHash := lineageHash
  attestationReceipt := attestationReceipt
  providerRetentionReceipt := providerRetentionReceipt

/-- The payload under a lineage hash, over the fields of a record. -/
def aiLineageHashPayload (l : AIExplanationLineageRecordFields) : Json :=
  .obj
    ([("actor_subject", .str l.actorSubject), ("candidate_id", .str l.candidateId),
      ("claim_ids", .arr (l.claimIds.map .str)),
      ("evidence_content_hash", .str l.evidenceContentHash),
      ("source_revision_vector_digest", .str l.sourceRevisionVectorDigest),
      ("source_cut_posture", .str l.sourceCutPosture.value),
      ("evidence_packet_id", .str l.evidencePacketId),
      ("fallback_reason", optionalText l.fallbackReason),
      ("fallback_used", .bool l.fallbackUsed),
      ("grants_downstream_authority", .bool l.grantsDownstreamAuthority),
      ("output_id", optionalText l.outputId), ("posture", .str l.posture),
      ("proposed_action_types", .arr (l.proposedActionTypes.map .str)),
      ("action_policy_version", .str l.actionPolicyVersion),
      ("output_integrity_version", .str l.outputIntegrityVersion),
      ("output_content_digest", .str l.outputContentDigest),
      ("execution_provenance_posture", .str l.executionProvenancePosture.value),
      ("purpose", .str l.purpose), ("reason_codes", .arr (l.reasonCodes.map .str)),
      ("request_id", .str l.requestId), ("requested_at_utc", .str l.requestedAtUtc.isoformat),
      ("evaluated_at_utc", .str l.evaluatedAtUtc.isoformat),
      ("verifier_outcome", .str l.verifierOutcome),
      ("workflow_pack_id", .str l.workflowPackId),
      ("workflow_pack_version", .str l.workflowPackVersion)] ++
    (l.attestationReceipt.elim [] fun receipt =>
      [("attestation_receipt", attestationReceiptPayload receipt)]) ++
    (l.providerRetentionReceipt.elim [] fun receipt =>
      [("provider_retention_receipt", aiProviderRetentionReceiptToMapping receipt)]))

/-- `ai_explanation_lineage_record_from_result`. -/
def aiExplanationLineageRecordFromResult [Sha256] (result : AIExplanationResult)
    (attestationReceipt : Option VerifiedLotusAIRunAttestationReceipt)
    (providerRetentionReceipt : Option VerifiedAIProviderRetentionReceipt) :
    Except PyError AIExplanationLineageRecord := do
  validate (aiLineageReceiptChecks result attestationReceipt providerRetentionReceipt)
  let lineageHash := digestText
    (aiLineageHashPayload (aiLineageFields result attestationReceipt providerRetentionReceipt ""))
  Checked.make AIExplanationLineageRecordFields.checks
    (aiLineageFields result attestationReceipt providerRetentionReceipt lineageHash)

/-! ## Replay registries -/

/-- The identities of an attestation that one request may use: the keys of
`_request_by_run_id` and `_request_by_nonce`. -/
inductive AttestationIdentity where
  | runId (value : String)
  | nonce (value : String)
  deriving DecidableEq

def attestationIdentities (r : VerifiedLotusAIRunAttestationReceipt) : List AttestationIdentity :=
  [.runId r.val.runId, .nonce r.val.replayNonce]

/-- The keys of `_request_by_confirmation_id`, `_request_by_provider_ref` and
`_request_by_nonce`. -/
inductive RetentionIdentity where
  | confirmationId (value : String)
  | providerRef (value : String)
  | nonce (value : String)
  deriving DecidableEq

def retentionIdentities (r : VerifiedAIProviderRetentionReceipt) : List RetentionIdentity :=
  [.confirmationId r.val.confirmationId, .providerRef r.val.providerConfirmationRef,
   .nonce r.val.replayNonce]

/-- `LotusAIAttestationReplayIndex`: its two dictionaries as one, keyed by identity. -/
abbrev LotusAIAttestationReplayIndex := ReplayRegistry AttestationIdentity String

namespace LotusAIAttestationReplayIndex

def conflicts (index : LotusAIAttestationReplayIndex) (requestId : String)
    (receipt : VerifiedLotusAIRunAttestationReceipt) : Bool :=
  ReplayRegistry.conflicts index requestId (attestationIdentities receipt)

def record (index : LotusAIAttestationReplayIndex) (requestId : String)
    (receipt : VerifiedLotusAIRunAttestationReceipt) : LotusAIAttestationReplayIndex :=
  ReplayRegistry.record index requestId (attestationIdentities receipt)

def restore (entries : List (String × VerifiedLotusAIRunAttestationReceipt)) :
    Except PyError LotusAIAttestationReplayIndex :=
  match ReplayRegistry.restore Dict.empty
      (entries.map fun (requestId, receipt) => (requestId, attestationIdentities receipt)) with
  | some index => .ok index
  | none => .error (.valueError "snapshot contains duplicate lotus-ai attestation identity")

end LotusAIAttestationReplayIndex

/-- `AIProviderRetentionReplayIndex`, in the same way. -/
abbrev AIProviderRetentionReplayIndex := ReplayRegistry RetentionIdentity String

namespace AIProviderRetentionReplayIndex

def conflicts (index : AIProviderRetentionReplayIndex) (requestId : String)
    (receipt : VerifiedAIProviderRetentionReceipt) : Bool :=
  ReplayRegistry.conflicts index requestId (retentionIdentities receipt)

def record (index : AIProviderRetentionReplayIndex) (requestId : String)
    (receipt : VerifiedAIProviderRetentionReceipt) : AIProviderRetentionReplayIndex :=
  ReplayRegistry.record index requestId (retentionIdentities receipt)

def restore (entries : List (String × VerifiedAIProviderRetentionReceipt)) :
    Except PyError AIProviderRetentionReplayIndex :=
  match ReplayRegistry.restore Dict.empty
      (entries.map fun (requestId, receipt) => (requestId, retentionIdentities receipt)) with
  | some index => .ok index
  | none => .error (.valueError "snapshot contains duplicate AI provider retention identity")

end AIProviderRetentionReplayIndex

end LotusIdea

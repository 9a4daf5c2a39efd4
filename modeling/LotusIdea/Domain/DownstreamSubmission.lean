import LotusIdea.Domain.Vocabulary
import LotusIdea.Foundation.Digest

/-!
# Downstream submissions

`downstream_submission.py`: one durable record for each request to realise an
idea in another system, with the owner's receipt, a lease for the dispatching
worker and an audit entry for every change of posture.
-/

set_option autoImplicit false

namespace LotusIdea

inductive DownstreamSubmissionResourceType where
  | conversionIntent
  | reportEvidencePack
  deriving DecidableEq, Repr

def DownstreamSubmissionResourceType.value : DownstreamSubmissionResourceType → String
  | .conversionIntent => "conversion_intent"
  | .reportEvidencePack => "report_evidence_pack"

inductive DownstreamSubmissionIdentityVersion where
  | legacyUnscopedV1
  | tenantScopedV2
  deriving DecidableEq, Repr

inductive DownstreamSubmissionPosture where
  | inFlight
  | acceptedByDownstream
  | rejectedByDownstream
  | notConfigured
  | reconciliationRequired
  | quarantined
  deriving DecidableEq, Repr

def DownstreamSubmissionPosture.value : DownstreamSubmissionPosture → String
  | .inFlight => "in_flight"
  | .acceptedByDownstream => "accepted_by_downstream"
  | .rejectedByDownstream => "rejected_by_downstream"
  | .notConfigured => "not_configured"
  | .reconciliationRequired => "reconciliation_required"
  | .quarantined => "quarantined"

inductive DownstreamSubmissionAuditAction where
  | claimed
  | finalized
  | reconciliationRequired
  | reconciled
  | quarantined
  deriving DecidableEq, Repr

def DownstreamSubmissionAuditAction.value : DownstreamSubmissionAuditAction → String
  | .claimed => "claimed"
  | .finalized => "finalized"
  | .reconciliationRequired => "reconciliation_required"
  | .reconciled => "reconciled"
  | .quarantined => "quarantined"

inductive DownstreamSubmissionClaimDecision where
  | accepted
  | replayed
  | conflict
  | resourceConflict
  | reconciliationRequired
  deriving DecidableEq, Repr

inductive DownstreamSubmissionMutationDecision where
  | accepted
  | replayed
  | notFound
  | leaseConflict
  | invalidState
  deriving DecidableEq, Repr

inductive DownstreamSubmissionResolution where
  | acceptedByDownstream
  | rejectedByDownstream
  | quarantined
  deriving DecidableEq, Repr

/-- `DownstreamSubmissionPosture(resolution.value)`. -/
def DownstreamSubmissionResolution.posture :
    DownstreamSubmissionResolution → DownstreamSubmissionPosture
  | .acceptedByDownstream => .acceptedByDownstream
  | .rejectedByDownstream => .rejectedByDownstream
  | .quarantined => .quarantined

inductive ReportOwnerReceiptProgress where
  | exactReplay
  | advanced
  | conflict
  deriving DecidableEq, Repr

/-! ## Owner receipts -/

structure ReportMaterializationFields where
  status : String
  materializationStatus : String
  statusUrl : String
  reportEvidencePackId : String
  conversionIntentId : String
  candidateId : String
  evidencePacketId : String
  createsReportJob : Bool
  createsRenderedOutput : Bool
  createsArchiveRecord : Bool
  renderJobId : Option String
  archiveDocumentId : Option String
  supportabilityStatus : String
  remainingBlockers : List String
  deriving DecidableEq, Repr

def ReportMaterializationFields.checks (m : ReportMaterializationFields) :
    List (Bool × PyError) :=
  [requireText m.status "status",
   requireText m.materializationStatus "materialization_status",
   requireText m.statusUrl "status_url",
   requireText m.reportEvidencePackId "report_evidence_pack_id",
   requireText m.conversionIntentId "conversion_intent_id",
   requireText m.candidateId "candidate_id",
   requireText m.evidencePacketId "evidence_packet_id",
   requireText m.supportabilityStatus "supportability_status",
   (!m.createsReportJob, .valueError "report materialization receipt must create a report job"),
   (m.createsRenderedOutput != m.renderJobId.isSome,
     .valueError "render creation posture must match render_job_id"),
   (m.createsArchiveRecord != m.archiveDocumentId.isSome,
     .valueError "archive creation posture must match archive_document_id"),
   (m.createsArchiveRecord && !m.createsRenderedOutput,
     .valueError "an archive record requires rendered output"),
   (m.remainingBlockers.isEmpty, .valueError "remaining_blockers is required")] ++
  m.remainingBlockers.map (fun blocker => requireText blocker "remaining_blocker") ++
  [(m.status != m.materializationStatus,
     .valueError "Report materialization status fields must agree"),
   (m.supportabilityStatus != "not_certified",
     .valueError "Report materialization must remain not_certified"),
   (!(m.remainingBlockers.contains "client_publication_authority_blocked" &&
        m.remainingBlockers.contains "supported_feature_promotion_missing"),
     .valueError "Report materialization omits required supportability blockers")]

/-- Report-owned materialization facts returned with an accepted submission. -/
abbrev ReportMaterializationReceiptEvidence := Checked ReportMaterializationFields.checks

structure OwnerReceiptFields where
  ownerAuthority : SourceSystem
  ownerRequestId : String
  ownerRealizationId : String
  ownerWorkId : Option String
  sourceEventVersion : Option Int
  sourceEvidenceFingerprint : String
  reportMaterialization : Option ReportMaterializationReceiptEvidence := none
  deriving DecidableEq

/-- The authority-specific tail of the receipt's `__post_init__`. -/
def OwnerReceiptFields.authorityChecks (r : OwnerReceiptFields) : List (Bool × PyError) :=
  if r.ownerAuthority = .lotusReport then
    [(r.reportMaterialization.isNone,
       .valueError "Report owner receipt requires materialization evidence"),
     (r.ownerWorkId.isSome,
       .valueError "Report materialization uses owner_realization_id for the job"),
     (r.reportMaterialization.any fun m =>
        m.val.statusUrl != "/reports/jobs/" ++ r.ownerRealizationId,
       .valueError "Report materialization status_url must match owner_realization_id")]
  else
    [(r.sourceEventVersion.isNone,
       .valueError "evented owner receipt requires source_event_version"),
     (r.reportMaterialization.isSome,
       .valueError "report materialization evidence requires lotus-report authority")]

def OwnerReceiptFields.checks (r : OwnerReceiptFields) : List (Bool × PyError) :=
  [requireText r.ownerRequestId "owner_request_id",
   requireText r.ownerRealizationId "owner_realization_id",
   requireOptionalText r.ownerWorkId "owner_work_id",
   (r.sourceEventVersion.any (· ≤ 0),
     .valueError "source_event_version must be positive when present"),
   requireText r.sourceEvidenceFingerprint "source_evidence_fingerprint",
   (!PyText.startsWith r.sourceEvidenceFingerprint "sha256:",
     .valueError "source_evidence_fingerprint must use sha256")] ++
  r.authorityChecks

abbrev DownstreamSubmissionOwnerReceipt := Checked OwnerReceiptFields.checks

/-- The identity tuple that `classify_report_owner_receipt_progress` compares. -/
structure ReportReceiptIdentity where
  ownerAuthority : SourceSystem
  ownerRequestId : String
  ownerRealizationId : String
  ownerWorkId : Option String
  sourceEvidenceFingerprint : String
  statusUrl : String
  reportEvidencePackId : String
  conversionIntentId : String
  candidateId : String
  evidencePacketId : String
  deriving DecidableEq

def reportReceiptIdentity (receipt : DownstreamSubmissionOwnerReceipt)
    (evidence : ReportMaterializationReceiptEvidence) : ReportReceiptIdentity where
  ownerAuthority := receipt.val.ownerAuthority
  ownerRequestId := receipt.val.ownerRequestId
  ownerRealizationId := receipt.val.ownerRealizationId
  ownerWorkId := receipt.val.ownerWorkId
  sourceEvidenceFingerprint := receipt.val.sourceEvidenceFingerprint
  statusUrl := evidence.val.statusUrl
  reportEvidencePackId := evidence.val.reportEvidencePackId
  conversionIntentId := evidence.val.conversionIntentId
  candidateId := evidence.val.candidateId
  evidencePacketId := evidence.val.evidencePacketId

/-- Compare two exact Report snapshots without inventing missing owner chronology. -/
def classifyReportOwnerReceiptProgress (current proposed : DownstreamSubmissionOwnerReceipt) :
    ReportOwnerReceiptProgress :=
  if current.val.ownerAuthority ≠ .lotusReport ∨ proposed.val.ownerAuthority ≠ .lotusReport then
    .conflict
  else
    match current.val.reportMaterialization, proposed.val.reportMaterialization,
        proposed.val.sourceEventVersion with
    | some currentEvidence, some proposedEvidence, some proposedVersion =>
        if reportReceiptIdentity current currentEvidence ≠
            reportReceiptIdentity proposed proposedEvidence then .conflict
        else
          match current.val.sourceEventVersion with
          | none => .advanced
          | some currentVersion =>
              if proposedVersion < currentVersion then .conflict
              else if proposedVersion = currentVersion then
                if proposed = current then .exactReplay else .conflict
              else .advanced
    | _, _, _ => .conflict

/-! ## Records -/

structure AuditEntryFields where
  auditId : String
  action : DownstreamSubmissionAuditAction
  actorSubject : String
  currentPosture : DownstreamSubmissionPosture
  occurredAtUtc : DateTime
  previousPosture : Option DownstreamSubmissionPosture := none
  reason : Option String := none
  changeReference : Option String := none
  deriving DecidableEq

def AuditEntryFields.checks (a : AuditEntryFields) : List (Bool × PyError) :=
  [requireText a.auditId "audit_id", requireText a.actorSubject "actor_subject"] ++
  requireAwareUtc a.occurredAtUtc "occurred_at_utc" ++
  [requireOptionalText a.reason "reason",
   requireOptionalText a.changeReference "change_reference"]

abbrev DownstreamSubmissionAuditEntry := Checked AuditEntryFields.checks

section Records
variable [Sha256]

/-- The joined identity; blank parts are refused by `identityChecks`. -/
def downstreamSubmissionIdentity (tenantId idempotencyKey : String) : String :=
  tenantId ++ "\x00" ++ idempotencyKey

def identityChecks (tenantId idempotencyKey : String) : List (Bool × PyError) :=
  [requireText tenantId "tenant_id", requireText idempotencyKey "idempotency_key"]

def supportPrefix : String := "downstream-submission-"

def downstreamSubmissionSupportReference (tenantId idempotencyKey : String) : String :=
  supportPrefix ++ Sha256.hexdigest 24 (downstreamSubmissionIdentity tenantId idempotencyKey)

def downstreamSubmissionLeaseAttemptId (tenantId idempotencyKey : String) : String :=
  "downstream-attempt-" ++
    Sha256.hexdigest 24 (downstreamSubmissionIdentity tenantId idempotencyKey)

def legacyDownstreamSubmissionSupportReference (idempotencyKey : String) : String :=
  supportPrefix ++ Sha256.hexdigest 24 idempotencyKey

structure SubmissionFields where
  tenantId : String
  identityVersion : DownstreamSubmissionIdentityVersion
  idempotencyKey : String
  requestFingerprint : String
  resourceType : DownstreamSubmissionResourceType
  resourceId : String
  target : ConversionTarget
  sourceAuthority : SourceSystem
  status : DownstreamSubmissionPosture
  submittedAtUtc : DateTime
  supportReference : String
  attemptCount : Int
  updatedAtUtc : DateTime
  auditHistory : List DownstreamSubmissionAuditEntry
  downstreamFailureReason : Option String := none
  correlationId : Option String := none
  traceId : Option String := none
  leaseOwner : Option String := none
  leaseAttemptId : Option String := none
  leaseExpiresAtUtc : Option DateTime := none
  ownerReceipt : Option DownstreamSubmissionOwnerReceipt := none
  deriving DecidableEq

namespace SubmissionFields

def expectedSupportReference (r : SubmissionFields) : String :=
  if r.identityVersion = .legacyUnscopedV1 then
    legacyDownstreamSubmissionSupportReference r.idempotencyKey
  else downstreamSubmissionSupportReference r.tenantId r.idempotencyKey

/-- `_validate_lease`. -/
def leaseChecks (r : SubmissionFields) : List (Bool × PyError) :=
  [(r.status = .inFlight &&
      (r.leaseOwner.isNone || r.leaseAttemptId.isNone || r.leaseExpiresAtUtc.isNone),
     .valueError "in-flight downstream submission requires a complete lease"),
   requireOptionalText r.leaseOwner "lease_owner",
   requireOptionalText r.leaseAttemptId "lease_attempt_id"] ++
  match r.leaseExpiresAtUtc with
  | none => []
  | some expires =>
      requireAwareUtc expires "lease_expires_at_utc" ++
      [(decide (expires ≤ r.submittedAtUtc),
        .valueError "lease_expires_at_utc must be after submitted_at_utc")]

def requiresFailure (status : DownstreamSubmissionPosture) : Bool :=
  status = .rejectedByDownstream || status = .notConfigured ||
    status = .reconciliationRequired || status = .quarantined

def isTerminalDownstream (status : DownstreamSubmissionPosture) : Bool :=
  status = .acceptedByDownstream || status = .rejectedByDownstream

/-- `_validate_posture`. -/
def postureChecks (r : SubmissionFields) : List (Bool × PyError) :=
  [(requiresFailure r.status && r.downstreamFailureReason.isNone,
     .valueError (r.status.value ++ " downstream submission requires a failure reason")),
   ((r.status = .inFlight || r.status = .acceptedByDownstream) &&
      r.downstreamFailureReason.isSome,
     .valueError (r.status.value ++ " downstream submission forbids a failure reason")),
   (r.ownerReceipt.isSome && !isTerminalDownstream r.status,
     .valueError "owner_receipt requires a terminal downstream posture"),
   (r.ownerReceipt.any fun receipt => receipt.val.ownerAuthority ≠ r.sourceAuthority,
     .valueError "owner_receipt authority must match source_authority")]

def checks (r : SubmissionFields) : List (Bool × PyError) :=
  [requireText r.tenantId "tenant_id",
   requireText r.idempotencyKey "idempotency_key",
   requireText r.requestFingerprint "request_fingerprint",
   requireText r.resourceId "resource_id",
   requireText r.supportReference "support_reference",
   (r.supportReference != r.expectedSupportReference,
     .valueError "support_reference must match the declared submission identity")] ++
  requireAwareUtc r.submittedAtUtc "submitted_at_utc" ++
  requireAwareUtc r.updatedAtUtc "updated_at_utc" ++
  [(decide (r.attemptCount ≤ 0), .valueError "attempt_count must be positive"),
   (r.auditHistory.isEmpty, .valueError "audit_history is required"),
   requireOptionalText r.downstreamFailureReason "downstream_failure_reason"] ++
  r.leaseChecks ++ r.postureChecks

/-- What the constructor established of a stored record. -/
structure WellFormed (r : SubmissionFields) : Prop where
  tenantId : PyText.isBlank r.tenantId = false
  idempotencyKey : PyText.isBlank r.idempotencyKey = false
  requestFingerprint : PyText.isBlank r.requestFingerprint = false
  resourceId : PyText.isBlank r.resourceId = false
  supportReference : PyText.isBlank r.supportReference = false
  supportIdentity : r.supportReference = r.expectedSupportReference
  submittedAtUtc : r.submittedAtUtc.isUtc = true
  updatedAtUtc : r.updatedAtUtc.isUtc = true
  attemptCount : 0 < r.attemptCount
  auditHistory : r.auditHistory ≠ []
  failureReason : r.downstreamFailureReason.any PyText.isBlank = false
  lease : firstFailure r.leaseChecks = none
  posture : firstFailure r.postureChecks = none

theorem checks_pass {r : SubmissionFields} : firstFailure r.checks = none ↔ r.WellFormed := by
  simp only [checks, firstFailure_append, firstFailure_cons, firstFailure_nil, requireText_passes,
    requireOptionalText_passes, firstFailure_requireAwareUtc, bne_eq_false_iff_eq,
    decide_eq_false_iff_not, not_le, List.isEmpty_eq_false_iff, and_true]
  constructor
  · rintro ⟨⟨⟨⟨⟨⟨h1, h2, h3, h4, h5, h6⟩, h7⟩, h8⟩, h9, h10, h11⟩, h12⟩, h13⟩
    exact ⟨h1, h2, h3, h4, h5, h6, h7, h8, h9, h10, h11, h12, h13⟩
  · rintro ⟨h1, h2, h3, h4, h5, h6, h7, h8, h9, h10, h11, h12, h13⟩
    exact ⟨⟨⟨⟨⟨⟨h1, h2, h3, h4, h5, h6⟩, h7⟩, h8⟩, h9, h10, h11⟩, h12⟩, h13⟩

omit [Sha256] in
theorem posture_checks_pass {r : SubmissionFields} :
    firstFailure r.postureChecks = none ↔
      (requiresFailure r.status = true → r.downstreamFailureReason.isSome = true) ∧
      (r.status = .inFlight ∨ r.status = .acceptedByDownstream → r.downstreamFailureReason = none) ∧
      (r.ownerReceipt.isSome = true → SubmissionFields.isTerminalDownstream r.status = true) ∧
      ∀ receipt, r.ownerReceipt = some receipt → receipt.val.ownerAuthority = r.sourceAuthority := by
  simp only [SubmissionFields.postureChecks, firstFailure_cons, firstFailure_nil, and_true]
  refine and_congr ?_ (and_congr ?_ (and_congr ?_ ?_))
  · cases SubmissionFields.requiresFailure r.status <;> cases r.downstreamFailureReason <;> simp
  · cases r.downstreamFailureReason <;> simp [not_or]
  · cases SubmissionFields.isTerminalDownstream r.status <;> cases r.ownerReceipt <;> simp
  · cases r.ownerReceipt <;> simp

end SubmissionFields

abbrev DownstreamSubmissionRecord := Checked SubmissionFields.checks

theorem DownstreamSubmissionRecord.wellFormed (record : DownstreamSubmissionRecord) :
    record.val.WellFormed :=
  SubmissionFields.checks_pass.mp record.valid

structure DownstreamSubmissionClaimResult where
  decision : DownstreamSubmissionClaimDecision
  record : Option DownstreamSubmissionRecord

structure DownstreamSubmissionMutationResult where
  decision : DownstreamSubmissionMutationDecision
  record : Option DownstreamSubmissionRecord
  blocker : Option String := none

end Records

end LotusIdea

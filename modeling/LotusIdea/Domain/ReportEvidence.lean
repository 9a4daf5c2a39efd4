import LotusIdea.Domain.ConversionGovernance

/-!
# Report evidence packs

`report_evidence.py`: the evidence pack requested under a report conversion
intent.
-/

set_option autoImplicit false

namespace LotusIdea

inductive ReportEvidencePackBoundary where
  | requestOnly
  | downstreamMaterializationRequired
  deriving DecidableEq, Repr

def ReportEvidencePackBoundary.value : ReportEvidencePackBoundary → String
  | .requestOnly => "request_only"
  | .downstreamMaterializationRequired => "downstream_materialization_required"

inductive ReportEvidencePackPurpose where
  | clientReviewReportSection
  | advisorReviewEvidence
  | auditEvidence
  deriving DecidableEq, Repr

def ReportEvidencePackPurpose.value : ReportEvidencePackPurpose → String
  | .clientReviewReportSection => "client_review_report_section"
  | .advisorReviewEvidence => "advisor_review_evidence"
  | .auditEvidence => "audit_evidence"

/-- The keys of `EXTERNAL_POLICY_MAPPINGS`. -/
def externalPolicyRefs : List String := ["lotus-report:idea-evidence-retention:v1"]

/-- `resolve_external_retention_policy_ref`. -/
def requireGovernedRetention (policyRef : String) : Bool × PyError :=
  (!externalPolicyRefs.contains policyRef,
    .valueError "retention policy reference is not governed")

structure ReportEvidencePackCommandFields where
  reportEvidencePackId : String
  purpose : ReportEvidencePackPurpose
  actorSubject : String
  idempotencyKey : String
  reasonCodes : List ReasonCode
  requestedAtUtc : DateTime
  retentionPolicyRef : String
  clientReadyPublicationRequested : Bool := false
  deriving DecidableEq

def ReportEvidencePackCommandFields.checks (c : ReportEvidencePackCommandFields) :
    List (Bool × PyError) :=
  [requireText c.reportEvidencePackId "report_evidence_pack_id",
   requireText c.actorSubject "actor_subject", requireText c.idempotencyKey "idempotency_key",
   requireText c.retentionPolicyRef "retention_policy_ref",
   requireGovernedRetention c.retentionPolicyRef,
   requireAware c.requestedAtUtc "requested_at_utc",
   (c.reasonCodes.isEmpty, .valueError "reason_codes is required")]

abbrev ReportEvidencePackCommand := Checked ReportEvidencePackCommandFields.checks

structure ReportEvidenceSourceSummary where
  productId : String
  sourceSystem : SourceSystem
  productVersion : String
  asOfDate : String
  generatedAtUtc : DateTime
  contentHash : String
  dataQualityStatus : String
  freshness : String
  deriving DecidableEq

def ReportEvidenceSourceSummary.fromSourceRef (r : SourceRef) : ReportEvidenceSourceSummary where
  productId := r.val.productId
  sourceSystem := r.val.sourceSystem
  productVersion := r.val.productVersion
  asOfDate := r.val.asOfDate.isoformat
  generatedAtUtc := r.val.generatedAtUtc
  contentHash := r.val.contentHash
  dataQualityStatus := r.val.dataQualityStatus
  freshness := r.val.freshness.value

structure GovernedReportEvidencePackFields where
  reportEvidencePackId : String
  conversionIntentId : String
  candidateId : String
  evidencePacketId : String
  evidenceContentHash : String
  sourceSignalIds : List String
  sourceSummaries : List ReportEvidenceSourceSummary
  purpose : ReportEvidencePackPurpose
  actorSubject : String
  idempotencyKey : String
  reasonCodes : List ReasonCode
  requestedAtUtc : DateTime
  retentionPolicyRef : String
  reportSourceAuthority : SourceSystem := .lotusReport
  renderSourceAuthority : SourceSystem := .lotusRender
  archiveSourceAuthority : SourceSystem := .lotusArchive
  boundary : ReportEvidencePackBoundary := .requestOnly
  deriving DecidableEq

def GovernedReportEvidencePackFields.checks (p : GovernedReportEvidencePackFields) :
    List (Bool × PyError) :=
  [requireText p.reportEvidencePackId "report_evidence_pack_id",
   requireText p.conversionIntentId "conversion_intent_id",
   requireText p.candidateId "candidate_id",
   requireText p.evidencePacketId "evidence_packet_id",
   requireText p.evidenceContentHash "evidence_content_hash",
   requireText p.actorSubject "actor_subject", requireText p.idempotencyKey "idempotency_key",
   requireText p.retentionPolicyRef "retention_policy_ref",
   requireGovernedRetention p.retentionPolicyRef,
   requireAware p.requestedAtUtc "requested_at_utc",
   (p.sourceSignalIds.isEmpty, .valueError "source_signal_ids is required"),
   (p.sourceSummaries.isEmpty, .valueError "source_summaries is required"),
   (p.reasonCodes.isEmpty, .valueError "reason_codes is required")]

abbrev GovernedReportEvidencePack := Checked GovernedReportEvidencePackFields.checks

structure ReportEvidencePackResult where
  evidencePack : GovernedReportEvidencePack
  auditEvent : AuditEvent

/-- `_ensure_report_evidence_pack_allowed`. -/
def reportEvidencePackChecks (candidate : IdeaCandidate)
    (conversionIntent : GovernedConversionIntent) (command : ReportEvidencePackCommand) :
    List (Bool × PyError) :=
  let intent := conversionIntent.val.intent.val
  let refused (reason : String) :=
    PyError.invalidReportEvidencePack intent.conversionIntentId reason
  let packet := candidate.val.evidencePacket
  [(command.val.clientReadyPublicationRequested,
     refused "client-ready publication is not authorized"),
   (decide (intent.target ≠ .reportEvidence),
     refused "conversion target is not report evidence"),
   (intent.candidateId != candidate.val.candidateId,
     refused "conversion intent candidate mismatch"),
   (decide (conversionIntent.val.targetSourceAuthority ≠ .lotusReport),
     refused "target source authority is not lotus-report"),
   (decide (candidate.val.lifecycleStatus ≠ .convertedToReport),
     refused "candidate lifecycle is not converted to report"),
   (decide (candidate.val.reviewPosture ≠ .approvedForConversion),
     refused "review posture is not approved"),
   (decide (packet.val.supportability ≠ .ready), refused "evidence is not ready"),
   (packet.val.lineageRef.val.contentHash != conversionIntent.val.evidenceContentHash,
     refused "evidence hash does not match conversion intent")]

def requestReportEvidencePack (candidate : IdeaCandidate)
    (conversionIntent : GovernedConversionIntent) (command : ReportEvidencePackCommand) :
    Except PyError ReportEvidencePackResult := do
  validate (reportEvidencePackChecks candidate conversionIntent command)
  let packet := candidate.val.evidencePacket
  let evidencePack ← Checked.make GovernedReportEvidencePackFields.checks
    { reportEvidencePackId := command.val.reportEvidencePackId
      conversionIntentId := conversionIntent.val.intent.val.conversionIntentId
      candidateId := candidate.val.candidateId
      evidencePacketId := packet.val.evidencePacketId
      evidenceContentHash := packet.val.lineageRef.val.contentHash
      sourceSignalIds := candidate.val.sourceSignalIds
      sourceSummaries := packet.val.sourceRefs.map ReportEvidenceSourceSummary.fromSourceRef
      purpose := command.val.purpose
      actorSubject := command.val.actorSubject
      idempotencyKey := command.val.idempotencyKey
      reasonCodes := command.val.reasonCodes
      requestedAtUtc := command.val.requestedAtUtc
      retentionPolicyRef := command.val.retentionPolicyRef }
  let auditEvent ← AuditEvent.create
    { eventType := "idea.report_evidence_pack.requested"
      actorSubject := command.val.actorSubject
      outcome := "accepted"
      occurredAtUtc := command.val.requestedAtUtc
      attributes :=
        [("boundary", evidencePack.val.boundary.value),
         ("candidate_family", candidate.val.family.value),
         ("conversion_intent_id", conversionIntent.val.intent.val.conversionIntentId),
         ("evidence_packet_id", evidencePack.val.evidencePacketId),
         ("purpose", command.val.purpose.value),
         ("report_source_authority", evidencePack.val.reportSourceAuthority.value)] }
  return ⟨evidencePack, auditEvent⟩

/-- The pack is recorded as it was asked for, for the intent's candidate. -/
theorem requestReportEvidencePack_pack {candidate : IdeaCandidate}
    {conversionIntent : GovernedConversionIntent} {command : ReportEvidencePackCommand}
    {result : ReportEvidencePackResult}
    (run : requestReportEvidencePack candidate conversionIntent command = .ok result) :
    let pack := result.evidencePack.val
    pack.reportEvidencePackId = command.val.reportEvidencePackId ∧
      pack.candidateId = candidate.val.candidateId ∧
      conversionIntent.val.intent.val.candidateId = candidate.val.candidateId ∧
      pack.conversionIntentId = conversionIntent.val.intent.val.conversionIntentId ∧
      pack.purpose = command.val.purpose ∧ pack.actorSubject = command.val.actorSubject ∧
      pack.idempotencyKey = command.val.idempotencyKey ∧
      pack.reasonCodes = command.val.reasonCodes ∧
      pack.requestedAtUtc = command.val.requestedAtUtc ∧
      pack.retentionPolicyRef = command.val.retentionPolicyRef ∧
      command.val.clientReadyPublicationRequested = false := by
  simp only [requestReportEvidencePack] at run
  obtain ⟨_, allowed, run⟩ := Except.seq_returns.mp run
  obtain ⟨pack, made, run⟩ := Except.seq_returns.mp run
  obtain ⟨_, _, run⟩ := Except.seq_returns.mp run
  cases run
  have passed := validate_eq_ok.mp allowed
  simp only [reportEvidencePackChecks, firstFailure_cons, bne_eq_false_iff_eq] at passed
  have fields := Checked.make_eq_ok.mp made
  simp only [fields, passed.1, passed.2.2.1, and_self]

end LotusIdea

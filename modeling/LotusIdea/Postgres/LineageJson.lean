import LotusIdea.Domain.LineageIntegrity
import LotusIdea.Postgres.CandidateJson

/-!
# Stored AI explanation lineage

The JSON form of a lineage record in `postgres_codecs.py` and the row of
`idea_ai_explanation_lineage` that holds it.  A sealed record is read back as it was
written.  A record with the fields of one and the hash of another is refused, where
the hash is compared at all.
-/

set_option autoImplicit false

namespace LotusIdea

open Json

/-! ## Receipts -/

/-- `_attestation_receipt_from_json`. -/
def attestationReceiptFromJson (payload : Json) :
    Decoded VerifiedLotusAIRunAttestationReceipt := do
  let runId ← item readText payload "run_id"
  let consumerRequestId ← item readText payload "consumer_request_id"
  let replayNonce ← item readText payload "replay_nonce"
  let keyId ← item readText payload "key_id"
  let rotationEpoch ← item readInt payload "rotation_epoch"
  let providerId ← item readText payload "provider_id"
  let providerMode ← item readText payload "provider_mode"
  let modelId ← item readText payload "model_id"
  let modelVersion ← item readText payload "model_version"
  let modelRiskApprovalRef ← item readText payload "model_risk_approval_ref"
  let evaluatorId ← item readText payload "evaluator_id"
  let evaluatorPolicyVersion ← item readText payload "evaluator_policy_version"
  let inputEvidenceSha256 ← item readText payload "input_evidence_sha256"
  let outputContentSha256 ← item readText payload "output_content_sha256"
  let issuedAtUtc ← item readTime payload "issued_at_utc"
  let expiresAtUtc ← item readTime payload "expires_at_utc"
  let verifiedAtUtc ← item readTime payload "verified_at_utc"
  construct
    { runId, consumerRequestId, replayNonce, keyId, rotationEpoch, providerId, providerMode,
      modelId, modelVersion, modelRiskApprovalRef, evaluatorId, evaluatorPolicyVersion,
      inputEvidenceSha256, outputContentSha256, issuedAtUtc, expiresAtUtc, verifiedAtUtc }

/-- `_provider_retention_receipt_from_json`. -/
def providerRetentionReceiptFromJson (payload : Json) :
    Decoded VerifiedAIProviderRetentionReceipt := do
  let confirmationId ← item readText payload "confirmation_id"
  let workflowRunId ← item readText payload "workflow_run_id"
  let tenantId ← item readText payload "tenant_id"
  let providerConfirmationRef ← item readText payload "provider_confirmation_ref"
  let retentionPolicyId ← item readText payload "retention_policy_id"
  let outcome ← item readMember payload "outcome"
  let evidenceSha256 ← item readText payload "evidence_sha256"
  let providerFailureCode ← optionalItem readText payload "provider_failure_code"
  let deletionConfirmed ← item readBool payload "deletion_confirmed"
  let supportabilityStatus ← item readText payload "supportability_status"
  let replayNonce ← item readText payload "replay_nonce"
  let keyId ← item readText payload "key_id"
  let rotationEpoch ← item readInt payload "rotation_epoch"
  let providerDecisionAtUtc ← item readTime payload "provider_decision_at_utc"
  let issuedAtUtc ← item readTime payload "issued_at_utc"
  let expiresAtUtc ← item readTime payload "expires_at_utc"
  let verifiedAtUtc ← item readTime payload "verified_at_utc"
  construct
    { confirmationId, workflowRunId, tenantId, providerConfirmationRef, retentionPolicyId,
      outcome, evidenceSha256, providerFailureCode, deletionConfirmed, supportabilityStatus,
      replayNonce, keyId, rotationEpoch, providerDecisionAtUtc, issuedAtUtc, expiresAtUtc,
      verifiedAtUtc }

theorem attestationReceiptFromJson_payload {r : VerifiedLotusAIRunAttestationReceipt}
    (times : r.Representable) :
    attestationReceiptFromJson (attestationReceiptPayload r) = .ok r := by
  have issued : readTime (.str r.val.issuedAtUtc.isoformat) = (.ok r.val.issuedAtUtc : Decoded _) :=
    readTime_ofTime times.issuedAtUtc
  have expires : readTime (.str r.val.expiresAtUtc.isoformat) =
      (.ok r.val.expiresAtUtc : Decoded _) := readTime_ofTime times.expiresAtUtc
  have verified : readTime (.str r.val.verifiedAtUtc.isoformat) =
      (.ok r.val.verifiedAtUtc : Decoded _) := readTime_ofTime times.verifiedAtUtc
  simpa [attestationReceiptFromJson, attestationReceiptPayload, item, issued, expires,
    verified] using construct_val r

theorem providerRetentionReceiptFromJson_mapping {r : VerifiedAIProviderRetentionReceipt}
    (times : r.Representable) :
    providerRetentionReceiptFromJson (aiProviderRetentionReceiptToMapping r) = .ok r := by
  have decision : readTime (.str r.val.providerDecisionAtUtc.isoformat) =
      (.ok r.val.providerDecisionAtUtc : Decoded _) :=
    readTime_ofTime times.providerDecisionAtUtc
  have issued : readTime (.str r.val.issuedAtUtc.isoformat) = (.ok r.val.issuedAtUtc : Decoded _) :=
    readTime_ofTime times.issuedAtUtc
  have expires : readTime (.str r.val.expiresAtUtc.isoformat) =
      (.ok r.val.expiresAtUtc : Decoded _) := readTime_ofTime times.expiresAtUtc
  have verified : readTime (.str r.val.verifiedAtUtc.isoformat) =
      (.ok r.val.verifiedAtUtc : Decoded _) := readTime_ofTime times.verifiedAtUtc
  have outcome : readMember (.str r.val.outcome.value) = (.ok r.val.outcome : Decoded _) :=
    readMember_ofMember r.val.outcome
  have failure : readOptional readText (optionalText r.val.providerFailureCode) =
      (.ok r.val.providerFailureCode : Decoded _) := readOptional_text r.val.providerFailureCode
  simpa [providerRetentionReceiptFromJson, aiProviderRetentionReceiptToMapping, item,
    optionalItem, decision, issued, expires, verified, outcome, failure] using construct_val r

/-! ## Records -/

/-- `_ai_explanation_lineage_to_json`. -/
def aiExplanationLineageToJson (record : AIExplanationLineageRecord) : Json :=
  let l := record.val
  .obj
    [("request_id", .str l.requestId), ("candidate_id", .str l.candidateId),
     ("evidence_packet_id", .str l.evidencePacketId),
     ("evidence_content_hash", .str l.evidenceContentHash),
     ("source_revision_vector_digest", .str l.sourceRevisionVectorDigest),
     ("source_cut_posture", ofMember l.sourceCutPosture),
     ("workflow_pack_id", .str l.workflowPackId),
     ("workflow_pack_version", .str l.workflowPackVersion), ("purpose", .str l.purpose),
     ("posture", .str l.posture), ("verifier_outcome", .str l.verifierOutcome),
     ("fallback_used", .bool l.fallbackUsed), ("fallback_reason", ofOption .str l.fallbackReason),
     ("reason_codes", ofTexts l.reasonCodes), ("output_id", ofOption .str l.outputId),
     ("claim_ids", ofTexts l.claimIds), ("proposed_action_types", ofTexts l.proposedActionTypes),
     ("action_policy_version", .str l.actionPolicyVersion),
     ("output_integrity_version", .str l.outputIntegrityVersion),
     ("output_content_digest", .str l.outputContentDigest),
     ("execution_provenance_posture", ofMember l.executionProvenancePosture),
     ("actor_subject", .str l.actorSubject), ("requested_at_utc", ofTime l.requestedAtUtc),
     ("evaluated_at_utc", ofTime l.evaluatedAtUtc),
     ("grants_downstream_authority", .bool l.grantsDownstreamAuthority),
     ("lineage_hash", .str l.lineageHash),
     ("attestation_receipt", ofOption attestationReceiptPayload l.attestationReceipt),
     ("provider_retention_receipt",
       ofOption aiProviderRetentionReceiptToMapping l.providerRetentionReceipt)]

/-- `_ai_explanation_lineage_from_json`. -/
def aiExplanationLineageRecordFromJson (payload : Json) :
    Decoded AIExplanationLineageRecord := do
  let requestId ← item readText payload "request_id"
  let candidateId ← item readText payload "candidate_id"
  let evidencePacketId ← item readText payload "evidence_packet_id"
  let evidenceContentHash ← item readText payload "evidence_content_hash"
  let sourceRevisionVectorDigest ←
    itemOr readText payload "source_revision_vector_digest" (.str "legacy:unknown")
  let sourceCutPosture ← itemOr readMember payload "source_cut_posture" (.str "unknown")
  let workflowPackId ← item readText payload "workflow_pack_id"
  let workflowPackVersion ← item readText payload "workflow_pack_version"
  let purpose ← item readText payload "purpose"
  let posture ← item readText payload "posture"
  let verifierOutcome ← item readText payload "verifier_outcome"
  let fallbackUsed ← item readBool payload "fallback_used"
  let fallbackReason ← optionalItem readText payload "fallback_reason"
  let reasonCodes ← item (readArray readText) payload "reason_codes"
  let outputId ← optionalItem readText payload "output_id"
  let claimIds ← itemOr (readArray readText) payload "claim_ids" (.arr [])
  let proposedActionTypes ←
    itemOr (readArray readText) payload "proposed_action_types" (.arr [])
  let actionPolicyVersion ← item readText payload "action_policy_version"
  let outputIntegrityVersion ← item readText payload "output_integrity_version"
  let outputContentDigest ← item readText payload "output_content_digest"
  let executionProvenancePosture ← item readMember payload "execution_provenance_posture"
  let actorSubject ← item readText payload "actor_subject"
  let requestedAtUtc ← item readTime payload "requested_at_utc"
  let evaluatedAtUtc ← item readTime payload "evaluated_at_utc"
  let grantsDownstreamAuthority ← item readBool payload "grants_downstream_authority"
  let lineageHash ← item readText payload "lineage_hash"
  let attestationReceipt ← optionalItem attestationReceiptFromJson payload "attestation_receipt"
  let providerRetentionReceipt ←
    optionalItem providerRetentionReceiptFromJson payload "provider_retention_receipt"
  construct
    { requestId, candidateId, evidencePacketId, evidenceContentHash, sourceRevisionVectorDigest,
      sourceCutPosture, workflowPackId, workflowPackVersion, purpose, posture, verifierOutcome,
      fallbackUsed, fallbackReason, reasonCodes, outputId, claimIds, proposedActionTypes,
      actionPolicyVersion, outputIntegrityVersion, outputContentDigest,
      executionProvenancePosture, actorSubject, requestedAtUtc, evaluatedAtUtc,
      grantsDownstreamAuthority, lineageHash, attestationReceipt, providerRetentionReceipt }

theorem aiExplanationLineageRecordFromJson_toJson {record : AIExplanationLineageRecord}
    (times : record.val.Representable) :
    aiExplanationLineageRecordFromJson (aiExplanationLineageToJson record) = .ok record := by
  have requested := readTime_ofTime (ε := PyError) times.requestedAtUtc
  have evaluated := readTime_ofTime (ε := PyError) times.evaluatedAtUtc
  have attestation : readOptional attestationReceiptFromJson
      (ofOption attestationReceiptPayload record.val.attestationReceipt) =
        .ok record.val.attestationReceipt :=
    readOptional_back _ (fun _ null => nomatch null) fun r held =>
      attestationReceiptFromJson_payload (times.attestationReceipt r held)
  have provider : readOptional providerRetentionReceiptFromJson
      (ofOption aiProviderRetentionReceiptToMapping record.val.providerRetentionReceipt) =
        .ok record.val.providerRetentionReceipt :=
    readOptional_back _ (fun _ null => nomatch null) fun r held =>
      providerRetentionReceiptFromJson_mapping (times.providerRetentionReceipt r held)
  simpa [aiExplanationLineageRecordFromJson, aiExplanationLineageToJson, item, optionalItem,
    itemOr, requested, evaluated, attestation, provider] using construct_val record

/-! ## Rows -/

/-- An `expected_*` column that differs from the field of the payload. -/
def columnMismatch (expected : Option String) (field : String) : Bool :=
  expected.any fun column => column != field

section Rows

variable [Sha256]

/-- `ai_explanation_lineage_from_json`. -/
def aiExplanationLineageFromJson (payload : Json)
    (expectedIntegrityVersion expectedContentDigest expectedExecutionProvenancePosture :
      Option String) : Decoded AIExplanationLineageRecord := do
  let record ← aiExplanationLineageRecordFromJson payload
  if columnMismatch expectedIntegrityVersion record.val.outputIntegrityVersion then
    .error (.valueError "AI explanation lineage integrity version column mismatch")
  else if columnMismatch expectedContentDigest record.val.outputContentDigest then
    .error (.valueError "AI explanation lineage content digest column mismatch")
  else if columnMismatch expectedExecutionProvenancePosture
      record.val.executionProvenancePosture.value then
    .error (.valueError "AI explanation lineage execution provenance column mismatch")
  else do
    (verifyAiExplanationLineageRecordIntegrity record).mapError .raised
    return record

/-- The columns of `idea_ai_explanation_lineage` that a reader looks at. -/
structure AIExplanationLineageRow where
  lineageJson : Json
  outputIntegrityVersion : String
  outputContentDigest : String
  executionProvenancePosture : String

/-- `insert_ai_explanation_lineage_record`, as far as a reader looks. -/
def aiExplanationLineageRow (record : AIExplanationLineageRecord) : AIExplanationLineageRow where
  lineageJson := aiExplanationLineageToJson record
  outputIntegrityVersion := record.val.outputIntegrityVersion
  outputContentDigest := record.val.outputContentDigest
  executionProvenancePosture := record.val.executionProvenancePosture.value

/-- `ai_explanation_lineage_from_row`. -/
def aiExplanationLineageFromRow (row : AIExplanationLineageRow) :
    Decoded AIExplanationLineageRecord :=
  aiExplanationLineageFromJson row.lineageJson (some row.outputIntegrityVersion)
    (some row.outputContentDigest) (some row.executionProvenancePosture)

/-- A stored record is read back exactly as it verifies. -/
theorem aiExplanationLineageFromRow_row {record : AIExplanationLineageRecord}
    (times : record.val.Representable) :
    aiExplanationLineageFromRow (aiExplanationLineageRow record) =
      (verifyAiExplanationLineageRecordIntegrity record).mapError .raised >>= fun _ =>
        .ok record := by
  have read := aiExplanationLineageRecordFromJson_toJson times
  simp [aiExplanationLineageFromRow, aiExplanationLineageFromJson, aiExplanationLineageRow, read,
    columnMismatch, pure, Except.pure]

/-- A record built from a result has the payload of the result, passes verification
and is read back from its row.  With the hash of another sealed record, a record that
differs from it in what the hash covers fails verification exactly where the hash is
compared. -/
theorem lineage_tamper_evident (collisionFree : Sha256.CollisionFree 64) :
    (∀ result attestationReceipt providerRetentionReceipt record,
      aiExplanationLineageRecordFromResult result attestationReceipt providerRetentionReceipt =
          .ok record →
        aiLineageHashPayloadFromRecord record =
            aiLineageHashPayloadFromResult result (aiLineageEvaluatedAtUtc result)
              attestationReceipt providerRetentionReceipt ∧
          record.Sealed ∧
          verifyAiExplanationLineageRecordIntegrity record = .ok () ∧
          (record.val.Representable →
            aiExplanationLineageFromRow (aiExplanationLineageRow record) = .ok record)) ∧
    ∀ first other mixed : AIExplanationLineageRecord, first.val.Representable →
      other.val.Representable → other.Sealed → first.val.covered ≠ other.val.covered →
      mixed.val = { first.val with lineageHash := other.val.lineageHash } →
        (verifyAiExplanationLineageRecordIntegrity mixed =
            .error (.valueError "AI explanation lineage hash does not match persisted content") ↔
          first.val.HashCompared) := by
  constructor
  · intro result attestationReceipt providerRetentionReceipt record run
    obtain ⟨payloads, sealing⟩ := built_sealed run
    have passes := (verify_passes_iff record).mpr fun _ => sealing
    refine ⟨payloads, sealing, passes, ?_⟩
    intro times
    rw [aiExplanationLineageFromRow_row times, passes]
    rfl
  · intro first other mixed firstTimes otherTimes sealing differ fields
    have apart : ¬ mixed.Sealed := by
      rw [sealed_by_other_iff collisionFree firstTimes otherTimes sealing fields]
      exact differ
    have compared : mixed.val.HashCompared ↔ first.val.HashCompared := by
      rw [fields]
      rfl
    rw [verify_raises_iff, compared]
    exact and_iff_left apart

end Rows

/-! ## A record from before attestation -/

/-- A fallback explanation for one of two advisors, recorded now or taken over from
before attestation. -/
def sampleFallback (legacy changed : Bool) : AIExplanationResult where
  request :=
    { requestId := "explanation-1", actorSubject := if changed then "advisor-2" else "advisor-1"
      workflowPack := ⟨"idea_explanation.pack", "v1", .advisorRationaleDraft⟩
      redactedEvidence :=
        { candidateId := "idea-1", evidencePacketId := "packet-1"
          evidenceContentHash := "sha256:evidence"
          sourceRevisionVectorDigest := "sha256:sources", sourceCutPosture := .coherent }
      requestedAtUtc := .utc 20 }
  posture := .fallbackUsed
  verifierOutcome := .notRun
  reasonCodes := [.aiFallbackUsed]
  auditEvent :=
    ⟨{ eventType := "idea.ai_explanation.evaluated", actorSubject := "advisor-1"
       outcome := "fallback", occurredAtUtc := .utc 20, attributes := [] }, by decide +kernel⟩
  outputIntegrity :=
    ⟨⟨aiOutputIntegrityVersion, "sha256:" ++ String.ofList (List.replicate 64 'a')⟩,
      by decide +kernel⟩
  executionProvenancePosture :=
    if legacy then .preAttestationUnverifiable else .notApplicableFallback
  fallbackReason := some .aiUnavailable

def sampleFallbackFields (legacy changed : Bool) : AIExplanationLineageRecordFields :=
  aiLineageFields (sampleFallback legacy changed) none none "-"

theorem sampleFallbackFields_times (legacy changed : Bool) (hash : String) :
    { sampleFallbackFields legacy changed with lineageHash := hash }.Representable where
  requestedAtUtc := (by decide : (DateTime.utc 20).InRange)
  evaluatedAtUtc := (by decide : (DateTime.utc 20).InRange)
  attestationReceipt := fun _ held => nomatch held
  providerRetentionReceipt := fun _ held => nomatch held

theorem sampleFallbackFields_valid :
    ∀ legacy changed, firstFailure (sampleFallbackFields legacy changed).checks = none := by
  decide +kernel

section Samples

variable [Sha256]

/-- The fields of one explanation with the hash of another's. -/
def sampleFallbackRecord (legacy changed hashChanged : Bool) : AIExplanationLineageRecord where
  val :=
    { sampleFallbackFields legacy changed with
      lineageHash := digestText (aiLineageHashPayload (sampleFallbackFields legacy hashChanged)) }
  valid := rehashed_valid (sampleFallbackFields_valid legacy changed) _

theorem sampleFallbackRecord_sealed (legacy changed : Bool) :
    (sampleFallbackRecord legacy changed changed).Sealed := rfl

theorem sampleFallbackRecord_differ (legacy hash otherHash : Bool) :
    (sampleFallbackRecord legacy false hash).val.covered ≠
      (sampleFallbackRecord legacy true otherHash).val.covered := by
  intro same
  have actors := congrArg AIExplanationLineageRecordFields.actorSubject same
  exact absurd actors (by decide : "advisor-1" ≠ "advisor-2")

theorem sampleFallback_built (legacy changed : Bool) :
    aiExplanationLineageRecordFromResult (sampleFallback legacy changed) none none =
      .ok (sampleFallbackRecord legacy changed changed) :=
  Checked.make_of_valid (sampleFallbackRecord legacy changed changed).valid

end Samples

/-- What was recorded now is read back, and refused with another's hash. -/
theorem lineage_tamper_evident_sample : ∃ _ : Sha256,
    verifyAiExplanationLineageRecordIntegrity (sampleFallbackRecord false false false) = .ok () ∧
    aiExplanationLineageFromRow (aiExplanationLineageRow (sampleFallbackRecord false false false)) =
      .ok (sampleFallbackRecord false false false) ∧
    verifyAiExplanationLineageRecordIntegrity (sampleFallbackRecord false false true) =
      .error (.valueError "AI explanation lineage hash does not match persisted content") := by
  let : Sha256 := Sha256.extended []
  have collisionFree : Sha256.CollisionFree 64 :=
    @Sha256.extended_collisionFree [] 64 (Nat.le_refl 64) List.nodup_nil
  obtain ⟨built, mixed⟩ := lineage_tamper_evident collisionFree
  obtain ⟨_, _, passes, readBack⟩ := built _ none none _ (sampleFallback_built false false)
  refine ⟨inferInstance, passes, readBack (sampleFallbackFields_times false false _), ?_⟩
  refine (mixed (sampleFallbackRecord false false false) (sampleFallbackRecord false true true)
    (sampleFallbackRecord false false true) (sampleFallbackFields_times false false _)
    (sampleFallbackFields_times false true _) (sampleFallbackRecord_sealed false true)
    (sampleFallbackRecord_differ false false true) rfl).mpr ⟨rfl, ?_⟩
  intro same
  cases same

/-- A record from before attestation passes verification with the hash of another. -/
theorem legacy_lineage_unverified : ∃ _ : Sha256, Sha256.CollisionFree 64 ∧
    ∃ first other mixed : AIExplanationLineageRecord,
      first.val.Representable ∧ other.val.Representable ∧ first.Sealed ∧ other.Sealed ∧
      first.val.covered ≠ other.val.covered ∧
      mixed.val = { first.val with lineageHash := other.val.lineageHash } ∧
      verifyAiExplanationLineageRecordIntegrity mixed = .ok () := by
  let : Sha256 := Sha256.extended []
  refine ⟨inferInstance, @Sha256.extended_collisionFree [] 64 (Nat.le_refl 64) List.nodup_nil,
    sampleFallbackRecord true false false, sampleFallbackRecord true true true,
    sampleFallbackRecord true false true, sampleFallbackFields_times true false _,
    sampleFallbackFields_times true true _, rfl, rfl, sampleFallbackRecord_differ true false true,
    rfl, ?_⟩
  rw [verify_passes_iff]
  intro compared
  exact absurd rfl compared.2

end LotusIdea

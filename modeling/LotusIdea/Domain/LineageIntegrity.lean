import LotusIdea.Domain.AILineage
import LotusIdea.Domain.Enumerations
import LotusIdea.Domain.SourceEvidence

/-!
# Integrity of AI explanation lineage

The payload under a lineage hash is assembled twice, from the explanation result
and from the stored record.  Both assemblies agree, and a payload determines
every field of its record but the hash itself.
-/

set_option autoImplicit false

namespace LotusIdea

instance : PyEnum AIExecutionProvenancePosture where
  value := AIExecutionProvenancePosture.value
  members :=
    [.notApplicableFallback, .unattestedLocalTestFixture, .preAttestationUnverifiable,
      .lotusAiAttestationVerified]
  complete a := by cases a <;> decide
  distinct := by decide +kernel

instance : PyEnum AIProviderRetentionOutcome where
  value := AIProviderRetentionOutcome.value
  members := [.noProviderStorage, .retentionConfirmed, .deletionConfirmed, .providerFailure]
  complete a := by cases a <;> decide
  distinct := by decide +kernel

def aiOutputIntegrityVersion : String := "lotus-idea.ai-output-integrity.v1"

/-! ## The two payloads -/

def aiOutputClaimIds (output : Option AIWorkflowOutput) : List String :=
  match output with
  | none => []
  | some output => output.claimIds

def aiOutputProposedActionTypes (output : Option AIWorkflowOutput) : List String :=
  match output with
  | none => []
  | some output => output.proposedActionTypes.map AIProposedActionType.value

/-- `_ai_lineage_hash_payload_from_result`. -/
def aiLineageHashPayloadFromResult (result : AIExplanationResult) (evaluatedAtUtc : DateTime)
    (attestationReceipt : Option VerifiedLotusAIRunAttestationReceipt)
    (providerRetentionReceipt : Option VerifiedAIProviderRetentionReceipt) : Json :=
  let output := result.output
  let evidence := result.request.redactedEvidence
  .obj
    ([("actor_subject", .str result.request.actorSubject),
      ("candidate_id", .str evidence.candidateId),
      ("claim_ids", .arr ((aiOutputClaimIds output).map .str)),
      ("evidence_content_hash", .str evidence.evidenceContentHash),
      ("source_revision_vector_digest", .str evidence.sourceRevisionVectorDigest),
      ("source_cut_posture", .str evidence.sourceCutPosture.value),
      ("evidence_packet_id", .str evidence.evidencePacketId),
      ("fallback_reason", optionalText (result.fallbackReason.map AIFallbackReason.value)),
      ("fallback_used", .bool result.fallbackReason.isSome),
      ("grants_downstream_authority", .bool false),
      ("output_id", optionalText (output.map AIWorkflowOutput.outputId)),
      ("posture", .str result.posture.value),
      ("proposed_action_types", .arr ((aiOutputProposedActionTypes output).map .str)),
      ("action_policy_version", .str aiActionPolicyVersion),
      ("output_integrity_version", .str result.outputIntegrity.val.version),
      ("output_content_digest", .str result.outputIntegrity.val.digest),
      ("execution_provenance_posture", .str result.executionProvenancePosture.value),
      ("purpose", .str result.request.workflowPack.purpose.value),
      ("reason_codes", .arr (result.reasonCodes.map fun reason => .str reason.value)),
      ("request_id", .str result.request.requestId),
      ("requested_at_utc", .str result.request.requestedAtUtc.isoformat),
      ("evaluated_at_utc", .str evaluatedAtUtc.isoformat),
      ("verifier_outcome", .str result.verifierOutcome.value),
      ("workflow_pack_id", .str result.request.workflowPack.workflowPackId),
      ("workflow_pack_version", .str result.request.workflowPack.workflowPackVersion)] ++
    (attestationReceipt.elim [] fun receipt =>
      [("attestation_receipt", attestationReceiptPayload receipt)]) ++
    (providerRetentionReceipt.elim [] fun receipt =>
      [("provider_retention_receipt", aiProviderRetentionReceiptToMapping receipt)]))

/-- `_ai_lineage_hash_payload_from_record`. -/
def aiLineageHashPayloadFromRecord (record : AIExplanationLineageRecord) : Json :=
  aiLineageHashPayload record.val

/-- `verify_ai_explanation_lineage_record_integrity`. -/
def verifyAiExplanationLineageRecordIntegrity [Sha256] (record : AIExplanationLineageRecord) :
    Except PyError Unit :=
  if record.val.outputIntegrityVersion ≠ aiOutputIntegrityVersion then .ok ()
  else if record.val.executionProvenancePosture = .preAttestationUnverifiable then .ok ()
  else if record.val.lineageHash ≠ digestText (aiLineageHashPayloadFromRecord record) then
    .error (.valueError "AI explanation lineage hash does not match persisted content")
  else .ok ()

/-- The field of a record that its own hash does not cover is the hash. -/
def AIExplanationLineageRecordFields.covered (l : AIExplanationLineageRecordFields) :
    AIExplanationLineageRecordFields :=
  { l with lineageHash := "" }

/-- The record carries the hash of what it holds. -/
def AIExplanationLineageRecord.Sealed [Sha256] (record : AIExplanationLineageRecord) : Prop :=
  record.val.lineageHash = digestText (aiLineageHashPayloadFromRecord record)

/-- The records whose hash is compared: those of this integrity version that are
not from before attestation. -/
def AIExplanationLineageRecordFields.HashCompared (l : AIExplanationLineageRecordFields) : Prop :=
  l.outputIntegrityVersion = aiOutputIntegrityVersion ∧
    l.executionProvenancePosture ≠ .preAttestationUnverifiable

theorem aiLineageHashPayload_hash (l : AIExplanationLineageRecordFields) (hash : String) :
    aiLineageHashPayload { l with lineageHash := hash } = aiLineageHashPayload l := rfl

theorem aiLineageHashPayload_covered (l : AIExplanationLineageRecordFields) :
    aiLineageHashPayload l.covered = aiLineageHashPayload l := rfl

/-- The payload of a result is the payload of every record with its fields. -/
theorem payloadFromResult_eq (result : AIExplanationResult)
    (attestationReceipt : Option VerifiedLotusAIRunAttestationReceipt)
    (providerRetentionReceipt : Option VerifiedAIProviderRetentionReceipt) (hash : String) :
    aiLineageHashPayloadFromResult result (aiLineageEvaluatedAtUtc result) attestationReceipt
        providerRetentionReceipt =
      aiLineageHashPayload
        (aiLineageFields result attestationReceipt providerRetentionReceipt hash) := by
  have claims : aiOutputClaimIds result.output =
      result.output.elim [] AIWorkflowOutput.claimIds := by
    cases result.output <;> rfl
  have actions : aiOutputProposedActionTypes result.output =
      result.output.elim [] fun output =>
        output.proposedActionTypes.map AIProposedActionType.value := by
    cases result.output <;> rfl
  simp only [aiLineageHashPayloadFromResult, aiLineageHashPayload, aiLineageFields, claims,
    actions, List.map_map]
  rfl

/-! ## A payload determines its record -/

structure VerifiedLotusAIRunAttestationReceipt.Representable
    (r : VerifiedLotusAIRunAttestationReceipt) : Prop where
  issuedAtUtc : r.val.issuedAtUtc.InRange
  expiresAtUtc : r.val.expiresAtUtc.InRange
  verifiedAtUtc : r.val.verifiedAtUtc.InRange

structure VerifiedAIProviderRetentionReceipt.Representable
    (r : VerifiedAIProviderRetentionReceipt) : Prop where
  providerDecisionAtUtc : r.val.providerDecisionAtUtc.InRange
  issuedAtUtc : r.val.issuedAtUtc.InRange
  expiresAtUtc : r.val.expiresAtUtc.InRange
  verifiedAtUtc : r.val.verifiedAtUtc.InRange

/-- The times of a record are times of Python. -/
structure AIExplanationLineageRecordFields.Representable (l : AIExplanationLineageRecordFields) :
    Prop where
  requestedAtUtc : l.requestedAtUtc.InRange
  evaluatedAtUtc : l.evaluatedAtUtc.InRange
  attestationReceipt : ∀ r ∈ l.attestationReceipt, r.Representable
  providerRetentionReceipt : ∀ r ∈ l.providerRetentionReceipt, r.Representable

theorem attestationReceiptPayload_eq {a b : VerifiedLotusAIRunAttestationReceipt}
    (aTimes : a.Representable) (bTimes : b.Representable)
    (same : Json.dump (attestationReceiptPayload a) = Json.dump (attestationReceiptPayload b)) :
    a = b := by
  have values := Json.values_eq same (by simp) (by simp)
  simp only [List.map_cons, List.map_nil, List.cons.injEq, and_true] at values
  obtain ⟨run, request, nonce, keyId, epoch, provider, mode, model, version, approval, evaluator,
    policy, evidence, output, issued, expires, verified⟩ := values
  have issuedAt := DateTime.isoformat_injective aTimes.issuedAtUtc bTimes.issuedAtUtc
    (Json.str_eq issued)
  have expiresAt := DateTime.isoformat_injective aTimes.expiresAtUtc bTimes.expiresAtUtc
    (Json.str_eq expires)
  have verifiedAt := DateTime.isoformat_injective aTimes.verifiedAtUtc bTimes.verifiedAtUtc
    (Json.str_eq verified)
  apply Checked.ext
  rw [VerifiedLotusAIRunAttestationReceiptFields.mk.injEq]
  exact ⟨Json.str_eq run, Json.str_eq request, Json.str_eq nonce, Json.str_eq keyId,
    Json.int_eq epoch, Json.str_eq provider, Json.str_eq mode, Json.str_eq model,
    Json.str_eq version, Json.str_eq approval, Json.str_eq evaluator, Json.str_eq policy,
    Json.str_eq evidence, Json.str_eq output, issuedAt, expiresAt, verifiedAt⟩

theorem providerRetentionReceipt_eq {a b : VerifiedAIProviderRetentionReceipt}
    (aTimes : a.Representable) (bTimes : b.Representable)
    (same : Json.dump (aiProviderRetentionReceiptToMapping a) =
      Json.dump (aiProviderRetentionReceiptToMapping b)) :
    a = b := by
  have values := Json.values_eq same (by simp) (by simp)
  simp only [List.map_cons, List.map_nil, List.cons.injEq, and_true] at values
  obtain ⟨confirmation, run, tenant, reference, policy, outcome, evidence, failure, deletion,
    status, nonce, keyId, epoch, decision, issued, expires, verified⟩ := values
  have decisionAt := DateTime.isoformat_injective aTimes.providerDecisionAtUtc
    bTimes.providerDecisionAtUtc (Json.str_eq decision)
  have issuedAt := DateTime.isoformat_injective aTimes.issuedAtUtc bTimes.issuedAtUtc
    (Json.str_eq issued)
  have expiresAt := DateTime.isoformat_injective aTimes.expiresAtUtc bTimes.expiresAtUtc
    (Json.str_eq expires)
  have verifiedAt := DateTime.isoformat_injective aTimes.verifiedAtUtc bTimes.verifiedAtUtc
    (Json.str_eq verified)
  apply Checked.ext
  rw [VerifiedAIProviderRetentionReceiptFields.mk.injEq]
  exact ⟨Json.str_eq confirmation, Json.str_eq run, Json.str_eq tenant, Json.str_eq reference,
    Json.str_eq policy, member_eq outcome, Json.str_eq evidence, optionalText_eq failure,
    Json.bool_eq deletion, Json.str_eq status, Json.str_eq nonce, Json.str_eq keyId,
    Json.int_eq epoch, decisionAt, issuedAt, expiresAt, verifiedAt⟩

/-- The fields of the payload that are always there. -/
def aiLineageCommonFields (l : AIExplanationLineageRecordFields) : List (String × Json) :=
  [("actor_subject", .str l.actorSubject), ("candidate_id", .str l.candidateId),
   ("claim_ids", .arr (l.claimIds.map .str)),
   ("evidence_content_hash", .str l.evidenceContentHash),
   ("source_revision_vector_digest", .str l.sourceRevisionVectorDigest),
   ("source_cut_posture", .str l.sourceCutPosture.value),
   ("evidence_packet_id", .str l.evidencePacketId),
   ("fallback_reason", optionalText l.fallbackReason),
   ("fallback_used", .bool l.fallbackUsed),
   ("grants_downstream_authority", .bool l.grantsDownstreamAuthority),
   ("output_id", optionalText l.outputId), ("posture", .str l.posture),
   ("proposed_action_types", .arr (l.proposedActionTypes.map .str)),
   ("action_policy_version", .str l.actionPolicyVersion),
   ("output_integrity_version", .str l.outputIntegrityVersion),
   ("output_content_digest", .str l.outputContentDigest),
   ("execution_provenance_posture", .str l.executionProvenancePosture.value),
   ("purpose", .str l.purpose), ("reason_codes", .arr (l.reasonCodes.map .str)),
   ("request_id", .str l.requestId), ("requested_at_utc", .str l.requestedAtUtc.isoformat),
   ("evaluated_at_utc", .str l.evaluatedAtUtc.isoformat),
   ("verifier_outcome", .str l.verifierOutcome), ("workflow_pack_id", .str l.workflowPackId),
   ("workflow_pack_version", .str l.workflowPackVersion)]

/-- The fields that only a record with this receipt has. -/
def receiptField {α : Type} (key : String) (payload : α → Json) (receipt : Option α) :
    List (String × Json) :=
  receipt.elim [] fun receipt => [(key, payload receipt)]

/-- The fields of a payload. -/
def aiLineagePayloadFields (l : AIExplanationLineageRecordFields) : List (String × Json) :=
  aiLineageCommonFields l ++
    receiptField "attestation_receipt" attestationReceiptPayload l.attestationReceipt ++
    receiptField "provider_retention_receipt" aiProviderRetentionReceiptToMapping
      l.providerRetentionReceipt

theorem aiLineageHashPayload_fields (l : AIExplanationLineageRecordFields) :
    aiLineageHashPayload l = .obj (aiLineagePayloadFields l) := rfl

def aiLineageCommonKeys : List String :=
  ["actor_subject", "candidate_id", "claim_ids", "evidence_content_hash",
   "source_revision_vector_digest", "source_cut_posture", "evidence_packet_id",
   "fallback_reason", "fallback_used", "grants_downstream_authority", "output_id", "posture",
   "proposed_action_types", "action_policy_version", "output_integrity_version",
   "output_content_digest", "execution_provenance_posture", "purpose", "reason_codes",
   "request_id", "requested_at_utc", "evaluated_at_utc", "verifier_outcome",
   "workflow_pack_id", "workflow_pack_version"]

theorem mem_receiptField {α : Type} {key key' : String} {payload : α → Json} {value : Json}
    {receipt : Option α} :
    (key', value) ∈ receiptField key payload receipt ↔
      key' = key ∧ ∃ r ∈ receipt, value = payload r := by
  cases receipt <;> simp [receiptField]

theorem receiptField_keys {α : Type} (key : String) (payload : α → Json) (receipt : Option α) :
    (receiptField key payload receipt).map Prod.fst = if receipt.isSome then [key] else [] := by
  cases receipt <;> rfl

/-- Receipts of which one determines the other, both ways, are the same. -/
theorem receipt_eq {α : Type} {a b : Option α} (forth : ∀ r ∈ a, r ∈ b) (back : ∀ r ∈ b, r ∈ a) :
    a = b := by
  apply Option.ext
  intro r
  exact ⟨forth r, back r⟩

section Receipts

variable {a b : AIExplanationLineageRecordFields}

theorem attestationReceipt_kept (aTimes : a.Representable) (bTimes : b.Representable)
    (same : Json.dump (.obj (aiLineagePayloadFields a)) =
      Json.dump (.obj (aiLineagePayloadFields b))) :
    ∀ r ∈ a.attestationReceipt, r ∈ b.attestationReceipt := by
  intro r held
  have shown : ("attestation_receipt", attestationReceiptPayload r) ∈ aiLineagePayloadFields a :=
    List.mem_append_left _ (List.mem_append_right _ (mem_receiptField.mpr ⟨rfl, r, held, rfl⟩))
  obtain ⟨other, there, texts⟩ := Json.field_eq same shown
  obtain ⟨r', held', rfl⟩ : ∃ r' ∈ b.attestationReceipt, other = attestationReceiptPayload r' := by
    simpa [aiLineagePayloadFields, aiLineageCommonFields, mem_receiptField] using there
  rwa [attestationReceiptPayload_eq (aTimes.attestationReceipt r held)
    (bTimes.attestationReceipt r' held') texts]

theorem providerRetentionReceipt_kept (aTimes : a.Representable) (bTimes : b.Representable)
    (same : Json.dump (.obj (aiLineagePayloadFields a)) =
      Json.dump (.obj (aiLineagePayloadFields b))) :
    ∀ r ∈ a.providerRetentionReceipt, r ∈ b.providerRetentionReceipt := by
  intro r held
  have shown : ("provider_retention_receipt", aiProviderRetentionReceiptToMapping r) ∈
      aiLineagePayloadFields a :=
    List.mem_append_right _ (mem_receiptField.mpr ⟨rfl, r, held, rfl⟩)
  obtain ⟨other, there, texts⟩ := Json.field_eq same shown
  obtain ⟨r', held', rfl⟩ : ∃ r' ∈ b.providerRetentionReceipt,
      other = aiProviderRetentionReceiptToMapping r' := by
    simpa [aiLineagePayloadFields, aiLineageCommonFields, mem_receiptField] using there
  rwa [providerRetentionReceipt_eq (aTimes.providerRetentionReceipt r held)
    (bTimes.providerRetentionReceipt r' held') texts]

theorem payloadFields_keys (l : AIExplanationLineageRecordFields) :
    (aiLineagePayloadFields l).map Prod.fst =
      aiLineageCommonKeys ++
        (if l.attestationReceipt.isSome then ["attestation_receipt"] else []) ++
        (if l.providerRetentionReceipt.isSome then ["provider_retention_receipt"] else []) := by
  rw [aiLineagePayloadFields, List.map_append, List.map_append, receiptField_keys,
    receiptField_keys]
  rfl

theorem payloadFields_keys_distinct (l : AIExplanationLineageRecordFields) :
    ((aiLineagePayloadFields l).map Prod.fst).Nodup := by
  have all : (aiLineageCommonKeys ++ ["attestation_receipt"] ++
      ["provider_retention_receipt"]).Nodup := by decide +kernel
  refine List.Nodup.sublist ?_ all
  rw [payloadFields_keys]
  refine List.Sublist.append (List.Sublist.append (List.Sublist.refl _) ?_) ?_
  · split
    · exact List.Sublist.refl _
    · exact List.nil_sublist _
  · split
    · exact List.Sublist.refl _
    · exact List.nil_sublist _

theorem commonFields_length (l : AIExplanationLineageRecordFields) :
    (aiLineageCommonFields l).length = 25 := rfl

/-- Payloads with one text hold the same receipts, and one text under every other key. -/
theorem payload_parts (aTimes : a.Representable) (bTimes : b.Representable)
    (same : Json.dump (.obj (aiLineagePayloadFields a)) =
      Json.dump (.obj (aiLineagePayloadFields b))) :
    (aiLineageCommonFields a).map (fun field => Json.dump field.2) =
        (aiLineageCommonFields b).map (fun field => Json.dump field.2) ∧
      a.attestationReceipt = b.attestationReceipt ∧
      a.providerRetentionReceipt = b.providerRetentionReceipt := by
  have attestation : a.attestationReceipt = b.attestationReceipt :=
    receipt_eq (attestationReceipt_kept aTimes bTimes same)
      (attestationReceipt_kept bTimes aTimes same.symm)
  have provider : a.providerRetentionReceipt = b.providerRetentionReceipt :=
    receipt_eq (providerRetentionReceipt_kept aTimes bTimes same)
      (providerRetentionReceipt_kept bTimes aTimes same.symm)
  have keys : (aiLineagePayloadFields a).map Prod.fst =
      (aiLineagePayloadFields b).map Prod.fst := by
    rw [payloadFields_keys, payloadFields_keys, attestation, provider]
  have values := Json.values_eq same keys (payloadFields_keys_distinct b)
  simp only [aiLineagePayloadFields, List.append_assoc, List.map_append] at values
  have sizes : ((aiLineageCommonFields a).map fun field => Json.dump field.2).length =
      ((aiLineageCommonFields b).map fun field => Json.dump field.2).length := by
    rw [List.length_map, List.length_map, commonFields_length, commonFields_length]
  exact ⟨(List.append_inj values sizes).1, attestation, provider⟩

/-- Payloads with one text are of records that agree in all that the hash covers. -/
theorem covered_eq_of_payload (aTimes : a.Representable) (bTimes : b.Representable)
    (same : Json.dump (aiLineageHashPayload a) = Json.dump (aiLineageHashPayload b)) :
    a.covered = b.covered := by
  rw [aiLineageHashPayload_fields, aiLineageHashPayload_fields] at same
  obtain ⟨common, attestation, provider⟩ := payload_parts aTimes bTimes same
  simp only [aiLineageCommonFields, List.map_cons, List.map_nil, List.cons.injEq,
    and_true] at common
  obtain ⟨actor, candidate, claims, evidenceHash, vectorDigest, cut, packet, reason, used,
    authority, outputId, posture, actions, policy, version, digest, provenance, purpose, reasons,
    request, requested, evaluated, outcome, pack, packVersion⟩ := common
  have requestedAt := DateTime.isoformat_injective aTimes.requestedAtUtc bTimes.requestedAtUtc
    (Json.str_eq requested)
  have evaluatedAt := DateTime.isoformat_injective aTimes.evaluatedAtUtc bTimes.evaluatedAtUtc
    (Json.str_eq evaluated)
  rw [AIExplanationLineageRecordFields.covered, AIExplanationLineageRecordFields.covered,
    AIExplanationLineageRecordFields.mk.injEq]
  exact ⟨Json.str_eq request, Json.str_eq candidate, Json.str_eq packet, Json.str_eq evidenceHash,
    Json.str_eq vectorDigest, member_eq cut, Json.str_eq pack, Json.str_eq packVersion,
    Json.str_eq purpose, Json.str_eq posture, Json.str_eq outcome, Json.bool_eq used,
    optionalText_eq reason, Json.strings_eq reasons, optionalText_eq outputId,
    Json.strings_eq claims, Json.strings_eq actions, Json.str_eq policy, Json.str_eq version,
    Json.str_eq digest, member_eq provenance, Json.str_eq actor, requestedAt, evaluatedAt,
    Json.bool_eq authority, rfl, attestation, provider⟩

end Receipts

section Verification

variable [Sha256]

/-- Verification passes what it does not compare, and otherwise what is sealed. -/
theorem verify_passes_iff (record : AIExplanationLineageRecord) :
    verifyAiExplanationLineageRecordIntegrity record = .ok () ↔
      (record.val.HashCompared → record.Sealed) := by
  unfold verifyAiExplanationLineageRecordIntegrity
  split_ifs with version posture hash
  · exact iff_of_true rfl fun compared => absurd compared.1 version
  · exact iff_of_true rfl fun compared => absurd posture compared.2
  · refine iff_of_false (fun passed => nomatch passed) fun sealing => hash ?_
    exact sealing ⟨not_not.mp version, posture⟩
  · exact iff_of_true rfl fun _ => not_not.mp hash

/-- Verification raises one error, and only for what it compares. -/
theorem verify_raises_iff (record : AIExplanationLineageRecord) :
    verifyAiExplanationLineageRecordIntegrity record =
        .error (.valueError "AI explanation lineage hash does not match persisted content") ↔
      record.val.HashCompared ∧ ¬ record.Sealed := by
  unfold verifyAiExplanationLineageRecordIntegrity
  split_ifs with version posture hash
  · exact iff_of_false (fun failed => nomatch failed) fun compared => version compared.1.1
  · exact iff_of_false (fun failed => nomatch failed) fun compared => compared.1.2 posture
  · exact iff_of_true rfl ⟨⟨not_not.mp version, posture⟩, hash⟩
  · exact iff_of_false (fun failed => nomatch failed) fun compared =>
      compared.2 (not_not.mp hash)

theorem digestText_visible (payload : Json) : PyText.isBlank (digestText payload) = false :=
  PyText.isBlank_append_of_left _ (by decide)

/-- A record stays valid under another hash. -/
theorem rehashed_valid {l : AIExplanationLineageRecordFields} (valid : firstFailure l.checks = none)
    (payload : Json) :
    firstFailure { l with lineageHash := digestText payload }.checks = none := by
  have visible := digestText_visible payload
  rw [firstFailure_eq_none] at valid ⊢
  simp only [AIExplanationLineageRecordFields.checks, List.forall_mem_append,
    List.forall_mem_cons, requireText, visible] at valid ⊢
  tauto

theorem recordFromResult_returns {result : AIExplanationResult}
    {attestationReceipt : Option VerifiedLotusAIRunAttestationReceipt}
    {providerRetentionReceipt : Option VerifiedAIProviderRetentionReceipt}
    {record : AIExplanationLineageRecord}
    (run : aiExplanationLineageRecordFromResult result attestationReceipt
      providerRetentionReceipt = .ok record) :
    record.val = aiLineageFields result attestationReceipt providerRetentionReceipt
      (digestText (aiLineageHashPayloadFromResult result (aiLineageEvaluatedAtUtc result)
        attestationReceipt providerRetentionReceipt)) := by
  obtain ⟨_, _, made⟩ := Except.seq_returns.mp run
  rw [payloadFromResult_eq result attestationReceipt providerRetentionReceipt ""]
  exact Checked.make_eq_ok.mp made

/-- A record is built from a result with the payload of the result, and sealed. -/
theorem built_sealed {result : AIExplanationResult}
    {attestationReceipt : Option VerifiedLotusAIRunAttestationReceipt}
    {providerRetentionReceipt : Option VerifiedAIProviderRetentionReceipt}
    {record : AIExplanationLineageRecord}
    (run : aiExplanationLineageRecordFromResult result attestationReceipt
      providerRetentionReceipt = .ok record) :
    aiLineageHashPayloadFromRecord record =
        aiLineageHashPayloadFromResult result (aiLineageEvaluatedAtUtc result)
          attestationReceipt providerRetentionReceipt ∧
      record.Sealed := by
  have fields := recordFromResult_returns run
  have payloads : aiLineageHashPayloadFromRecord record =
      aiLineageHashPayloadFromResult result (aiLineageEvaluatedAtUtc result)
        attestationReceipt providerRetentionReceipt := by
    rw [aiLineageHashPayloadFromRecord, fields]
    exact (payloadFromResult_eq result attestationReceipt providerRetentionReceipt _).symm
  refine ⟨payloads, ?_⟩
  rw [AIExplanationLineageRecord.Sealed, payloads, fields]
  rfl

/-- A record with the hash of another, sealed one is sealed itself only if both agree
in all that the hash covers. -/
theorem sealed_by_other_iff (collisionFree : Sha256.CollisionFree 64)
    {first other mixed : AIExplanationLineageRecord} (firstTimes : first.val.Representable)
    (otherTimes : other.val.Representable) (sealing : other.Sealed)
    (fields : mixed.val = { first.val with lineageHash := other.val.lineageHash }) :
    mixed.Sealed ↔ first.val.covered = other.val.covered := by
  have payloads : aiLineageHashPayloadFromRecord mixed = aiLineageHashPayload first.val := by
    rw [aiLineageHashPayloadFromRecord, fields, aiLineageHashPayload_hash]
  have hash : mixed.val.lineageHash = digestText (aiLineageHashPayload other.val) := by
    rw [fields]
    exact sealing
  rw [AIExplanationLineageRecord.Sealed, payloads, hash]
  constructor
  · intro same
    exact (covered_eq_of_payload otherTimes firstTimes (digestText_eq collisionFree same)).symm
  · intro same
    rw [← aiLineageHashPayload_covered first.val, same, aiLineageHashPayload_covered]

end Verification

end LotusIdea

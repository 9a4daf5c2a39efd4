import LotusIdea.Postgres.WorkflowJson
import LotusIdea.Foundation.SqlRow

/-!
# Stored downstream submissions

The row of a submission in `postgres_downstream_submission.py`: its columns, the
values written into them, and the record read from them.  The reader asks more
of the two optional ids of a report materialization than their constructor did.
-/

set_option autoImplicit false

namespace LotusIdea

open Json Sql

/-! ## Texts of a payload -/

def shownText (key : String) : Json → Decoded String
  | .str text =>
      if PyText.isBlank text then .error (.valueError (key ++ " is required")) else .ok text
  | _ => .error (.valueError (key ++ " is required"))

/-- `_required_string`. -/
def requiredString (payload : Json) (key : String) : Decoded String :=
  itemOr (shownText key) payload key .null

def blankText (key : String) : DecodeError PyError :=
  .valueError (key ++ " must be a non-blank string")

def shownOptionalText (key : String) : Json → Decoded (Option String)
  | .null => .ok none
  | .str text =>
      if PyText.isBlank text then .error (blankText key) else .ok (some text)
  | _ => .error (blankText key)

/-- `_optional_string`. -/
def optionalString (payload : Json) (key : String) : Decoded (Option String) :=
  itemOr (shownOptionalText key) payload key .null

def strictBool (key : String) : Json → Decoded Bool
  | .bool value => .ok value
  | _ => .error (.valueError (key ++ " must be a boolean"))

/-- `_required_bool`. -/
def requiredBool (payload : Json) (key : String) : Decoded Bool :=
  itemOr (strictBool key) payload key .null

/-- `Enum(text)`. -/
def memberOf {α : Type} [PyEnum α] (text : String) : Decoded α := readMember (.str text)

/-! ## Audit entries -/

instance : PyEnum DownstreamSubmissionAuditAction where
  value := DownstreamSubmissionAuditAction.value
  members := (List.range 5).map DownstreamSubmissionAuditAction.ofNat
  complete a := by cases a <;> decide
  distinct := by decide +kernel

def DownstreamSubmissionIdentityVersion.value : DownstreamSubmissionIdentityVersion → String
  | .legacyUnscopedV1 => "legacy_unscoped_v1"
  | .tenantScopedV2 => "tenant_scoped_v2"

instance : PyEnum DownstreamSubmissionIdentityVersion where
  value := DownstreamSubmissionIdentityVersion.value
  members := [.legacyUnscopedV1, .tenantScopedV2]
  complete a := by cases a <;> decide
  distinct := by decide +kernel

/-- `downstream_submission_audit_to_json`. -/
def downstreamSubmissionAuditToJson (entry : DownstreamSubmissionAuditEntry) : Json :=
  .obj
    [("auditId", .str entry.val.auditId),
     ("action", ofMember entry.val.action),
     ("actorSubject", .str entry.val.actorSubject),
     ("previousPosture", ofOption ofMember entry.val.previousPosture),
     ("currentPosture", ofMember entry.val.currentPosture),
     ("occurredAtUtc", ofTime entry.val.occurredAtUtc),
     ("reason", ofOption .str entry.val.reason),
     ("changeReference", ofOption .str entry.val.changeReference)]

/-- `DownstreamSubmissionPosture(str(previous)) if previous else None`. -/
def previousPostureFromJson (previous : Json) :
    Decoded (Option DownstreamSubmissionPosture) := do
  if ← (readBool previous : Decoded Bool) then
    return some (← memberOf (← readText previous))
  else return none

/-- `downstream_submission_audit_from_json`. -/
def downstreamSubmissionAuditFromJson (payload : Json) :
    Decoded DownstreamSubmissionAuditEntry := do
  let previous ← getOr payload "previousPosture" .null
  let auditId ← requiredString payload "auditId"
  let action ← memberOf (← requiredString payload "action")
  let actorSubject ← requiredString payload "actorSubject"
  let previousPosture ← previousPostureFromJson previous
  let currentPosture ← memberOf (← requiredString payload "currentPosture")
  let occurredAtUtc ← itemOr readTime payload "occurredAtUtc" .null
  let reason ← optionalString payload "reason"
  let changeReference ← optionalString payload "changeReference"
  construct
    { auditId, action, actorSubject, currentPosture, occurredAtUtc, previousPosture, reason,
      changeReference }

/-! ## Owner receipts -/

/-- `_report_materialization_to_json`. -/
def reportMaterializationToJson (m : ReportMaterializationReceiptEvidence) : Json :=
  .obj
    [("status", .str m.val.status),
     ("materializationStatus", .str m.val.materializationStatus),
     ("statusUrl", .str m.val.statusUrl),
     ("reportEvidencePackId", .str m.val.reportEvidencePackId),
     ("conversionIntentId", .str m.val.conversionIntentId),
     ("candidateId", .str m.val.candidateId),
     ("evidencePacketId", .str m.val.evidencePacketId),
     ("createsReportJob", .bool m.val.createsReportJob),
     ("createsRenderedOutput", .bool m.val.createsRenderedOutput),
     ("createsArchiveRecord", .bool m.val.createsArchiveRecord),
     ("renderJobId", ofOption .str m.val.renderJobId),
     ("archiveDocumentId", ofOption .str m.val.archiveDocumentId),
     ("supportabilityStatus", .str m.val.supportabilityStatus),
     ("remainingBlockers", ofTexts m.val.remainingBlockers)]

def remainingBlockerFromJson : Json → Decoded String
  | .str text =>
      if PyText.isBlank text then
        .error (.valueError "remainingBlockers must contain non-blank strings")
      else .ok text
  | _ => .error (.valueError "remainingBlockers must contain non-blank strings")

/-- `_report_materialization_from_json` of a payload that is there. -/
def reportMaterializationFromJson (payload : Json) :
    Decoded ReportMaterializationReceiptEvidence := do
  let remainingBlockers ← itemOr (readArray remainingBlockerFromJson) payload
    "remainingBlockers" .null
  let status ← requiredString payload "status"
  let materializationStatus ← requiredString payload "materializationStatus"
  let statusUrl ← requiredString payload "statusUrl"
  let reportEvidencePackId ← requiredString payload "reportEvidencePackId"
  let conversionIntentId ← requiredString payload "conversionIntentId"
  let candidateId ← requiredString payload "candidateId"
  let evidencePacketId ← requiredString payload "evidencePacketId"
  let createsReportJob ← requiredBool payload "createsReportJob"
  let createsRenderedOutput ← requiredBool payload "createsRenderedOutput"
  let createsArchiveRecord ← requiredBool payload "createsArchiveRecord"
  let renderJobId ← optionalString payload "renderJobId"
  let archiveDocumentId ← optionalString payload "archiveDocumentId"
  let supportabilityStatus ← requiredString payload "supportabilityStatus"
  construct
    { status, materializationStatus, statusUrl, reportEvidencePackId, conversionIntentId,
      candidateId, evidencePacketId, createsReportJob, createsRenderedOutput,
      createsArchiveRecord, renderJobId, archiveDocumentId, supportabilityStatus,
      remainingBlockers }

/-- `_owner_receipt_to_json`. -/
def ownerReceiptToJson (receipt : DownstreamSubmissionOwnerReceipt) : Json :=
  .obj
    [("ownerAuthority", ofMember receipt.val.ownerAuthority),
     ("ownerRequestId", .str receipt.val.ownerRequestId),
     ("ownerRealizationId", .str receipt.val.ownerRealizationId),
     ("ownerWorkId", ofOption .str receipt.val.ownerWorkId),
     ("sourceEventVersion", ofOption .int receipt.val.sourceEventVersion),
     ("sourceEvidenceFingerprint", .str receipt.val.sourceEvidenceFingerprint),
     ("reportMaterialization",
       ofOption reportMaterializationToJson receipt.val.reportMaterialization)]

def sourceEventVersionFromJson : Json → Decoded (Option Int)
  | .null => .ok none
  | .int version => .ok (some version)
  | _ => .error (.valueError
      "owner receipt sourceEventVersion must be an integer when present")

/-- `_owner_receipt_from_json` of a payload that is there. -/
def ownerReceiptFromJson (payload : Json) : Decoded DownstreamSubmissionOwnerReceipt := do
  let sourceEventVersion ← itemOr sourceEventVersionFromJson payload "sourceEventVersion" .null
  let reportMaterialization ←
    optionalItem reportMaterializationFromJson payload "reportMaterialization"
  let ownerAuthority ← memberOf (← requiredString payload "ownerAuthority")
  let ownerRequestId ← requiredString payload "ownerRequestId"
  let ownerRealizationId ← requiredString payload "ownerRealizationId"
  let ownerWorkId ← optionalString payload "ownerWorkId"
  let sourceEvidenceFingerprint ← requiredString payload "sourceEvidenceFingerprint"
  construct
    { ownerAuthority, ownerRequestId, ownerRealizationId, ownerWorkId, sourceEventVersion,
      sourceEvidenceFingerprint, reportMaterialization }

/-! ## The row -/

/-- `DOWNSTREAM_SUBMISSION_COLUMNS`. -/
def downstreamSubmissionColumns : List String :=
  ["tenant_id", "identity_version", "idempotency_key", "request_fingerprint", "resource_type",
   "resource_id", "target", "source_authority", "status", "downstream_failure_reason",
   "correlation_id", "trace_id", "submitted_at_utc", "support_reference", "attempt_count",
   "updated_at_utc", "lease_owner", "lease_attempt_id", "lease_expires_at_utc", "audit_json",
   "owner_receipt_json"]

section
variable [Sha256]

/-- `downstream_submission_values`. -/
def downstreamSubmissionValues (record : DownstreamSubmissionRecord) : List ColumnValue :=
  let r := record.val
  [.text r.tenantId, .text r.identityVersion.value, .text r.idempotencyKey,
   .text r.requestFingerprint, .text r.resourceType.value, .text r.resourceId,
   .text r.target.value, .text r.sourceAuthority.value, .text r.status.value,
   .optional .text r.downstreamFailureReason, .optional .text r.correlationId,
   .optional .text r.traceId, .time r.submittedAtUtc, .text r.supportReference,
   .int r.attemptCount, .time r.updatedAtUtc, .optional .text r.leaseOwner,
   .optional .text r.leaseAttemptId, .optional .time r.leaseExpiresAtUtc,
   .json (.arr (r.auditHistory.map downstreamSubmissionAuditToJson)),
   .optional (fun receipt => .json (ownerReceiptToJson receipt)) r.ownerReceipt]

/-- `downstream_submission_from_row`. -/
def downstreamSubmissionFromRow (row : Row) : Decoded DownstreamSubmissionRecord := do
  let tenantId ← readColumn readTextValue row "tenant_id"
  let identityVersion ← memberOf (← readColumn readTextValue row "identity_version")
  let idempotencyKey ← readColumn readTextValue row "idempotency_key"
  let requestFingerprint ← readColumn readTextValue row "request_fingerprint"
  let resourceType ← memberOf (← readColumn readTextValue row "resource_type")
  let resourceId ← readColumn readTextValue row "resource_id"
  let target ← memberOf (← readColumn readTextValue row "target")
  let sourceAuthority ← memberOf (← readColumn readTextValue row "source_authority")
  let status ← memberOf (← readColumn readTextValue row "status")
  let downstreamFailureReason ←
    readColumn (readNullable readTextValue) row "downstream_failure_reason"
  let correlationId ← readColumn (readNullable readTextValue) row "correlation_id"
  let traceId ← readColumn (readNullable readTextValue) row "trace_id"
  let submittedAtUtc ← readColumn readTimeValue row "submitted_at_utc"
  let supportReference ← readColumn readTextValue row "support_reference"
  let attemptCount ← readColumn readIntValue row "attempt_count"
  let updatedAtUtc ← readColumn readTimeValue row "updated_at_utc"
  let leaseOwner ← readColumn (readNullable readTextValue) row "lease_owner"
  let leaseAttemptId ← readColumn (readNullable readTextValue) row "lease_attempt_id"
  let leaseExpiresAtUtc ← readColumn (readNullable readTimeValue) row "lease_expires_at_utc"
  let auditHistory ← readArray downstreamSubmissionAuditFromJson
    (← readColumn readJsonValue row "audit_json")
  let ownerReceiptJson ← readColumn (readNullable readJsonValue) row "owner_receipt_json"
  let ownerReceipt ← ownerReceiptJson.mapM ownerReceiptFromJson
  construct
    { tenantId, identityVersion, idempotencyKey, requestFingerprint, resourceType, resourceId,
      target, sourceAuthority, status, submittedAtUtc, supportReference, attemptCount,
      updatedAtUtc, auditHistory, downstreamFailureReason, correlationId, traceId, leaseOwner,
      leaseAttemptId, leaseExpiresAtUtc, ownerReceipt }

end

/-! ## What is read of a submission -/

theorem shownText_str {text : String} (shown : PyText.isBlank text = false) (key : String) :
    shownText key (.str text) = .ok text := by
  simp [shownText, shown]

@[simp] theorem shownOptionalText_written (key : String) (value : Option String) :
    shownOptionalText key (ofOption .str value) =
      if value.any PyText.isBlank then .error (blankText key) else .ok value := by
  cases value with
  | none => rfl
  | some text => simp [shownOptionalText, ofOption]

@[simp] theorem strictBool_bool (key : String) (value : Bool) :
    strictBool key (.bool value) = .ok value := rfl

theorem shownText_member {α : Type} [PyEnum α] {member : α}
    (shown : PyText.isBlank (PyEnum.value member) = false) (key : String) :
    shownText key (ofMember member) = .ok (PyEnum.value member) :=
  shownText_str shown key

@[simp] theorem memberOf_value {α : Type} [PyEnum α] (member : α) :
    memberOf (PyEnum.value member) = .ok member :=
  readMember_ofMember member

theorem auditAction_shown (action : DownstreamSubmissionAuditAction) :
    PyText.isBlank (PyEnum.value action) = false := by
  cases action <;> decide

theorem posture_shown (posture : DownstreamSubmissionPosture) :
    PyText.isBlank (PyEnum.value posture) = false := by
  cases posture <;> decide

theorem sourceSystem_shown (system : SourceSystem) :
    PyText.isBlank (PyEnum.value system) = false := by
  cases system <;> decide

@[simp] theorem previousPosture_read (previous : Option DownstreamSubmissionPosture) :
    previousPostureFromJson (ofOption ofMember previous) = .ok previous := by
  cases previous with
  | none => rfl
  | some posture =>
      have shown : PyEnum.value posture ≠ "" := by
        intro empty
        have blank := posture_shown posture
        rw [empty] at blank
        exact absurd blank (by decide)
      have read : memberOf (PyEnum.value posture) = .ok posture := readMember_ofMember posture
      simp [previousPostureFromJson, ofOption, ofMember, readBool, shown, read, pure, Except.pure]

theorem downstreamSubmissionAuditFromJson_toJson {entry : DownstreamSubmissionAuditEntry}
    (inRange : entry.val.occurredAtUtc.InRange) :
    downstreamSubmissionAuditFromJson (downstreamSubmissionAuditToJson entry) = .ok entry := by
  have valid := entry.valid
  simp only [AuditEntryFields.checks, firstFailure_append, firstFailure_cons, firstFailure_nil,
    requireText_passes, requireOptionalText_passes, and_true] at valid
  obtain ⟨⟨⟨auditId, actor⟩, _⟩, reason, change⟩ := valid
  have occurred := readTime_ofTime (ε := PyError) inRange
  have action := shownText_member (auditAction_shown entry.val.action)
  have current := shownText_member (posture_shown entry.val.currentPosture)
  simpa [downstreamSubmissionAuditFromJson, downstreamSubmissionAuditToJson, requiredString,
    optionalString, itemOr, shownText_str auditId, shownText_str actor, reason, change, occurred,
    action, current] using construct_val entry

/-- The ids that a report materialization may carry show something. -/
def ReportMaterializationReceiptEvidence.IdsShown (m : ReportMaterializationReceiptEvidence) :
    Prop :=
  m.val.renderJobId.any PyText.isBlank = false ∧ m.val.archiveDocumentId.any PyText.isBlank = false

instance (m : ReportMaterializationReceiptEvidence) : Decidable m.IdsShown :=
  inferInstanceAs (Decidable (_ ∧ _))

theorem remainingBlockers_read {blockers : List String}
    (shown : ∀ blocker ∈ blockers, PyText.isBlank blocker = false) :
    readArray remainingBlockerFromJson (ofTexts blockers) = .ok blockers :=
  readArray_back blockers fun blocker member => by
    simp [remainingBlockerFromJson, shown blocker member]

theorem blockers_shown (m : ReportMaterializationReceiptEvidence) :
    ∀ blocker ∈ m.val.remainingBlockers, PyText.isBlank blocker = false := by
  have valid := m.valid
  simp only [ReportMaterializationFields.checks, firstFailure_append] at valid
  have each := firstFailure_eq_none.mp valid.1.2
  intro blocker member
  exact each _ (List.mem_map_of_mem member)

/-- The reader refuses the materialization whose ids are blank. -/
theorem reportMaterializationFromJson_toJson (m : ReportMaterializationReceiptEvidence) :
    reportMaterializationFromJson (reportMaterializationToJson m) =
      if m.val.renderJobId.any PyText.isBlank then .error (blankText "renderJobId")
      else if m.val.archiveDocumentId.any PyText.isBlank then
        .error (blankText "archiveDocumentId")
      else .ok m := by
  have valid := m.valid
  have blockers := remainingBlockers_read (blockers_shown m)
  simp only [ReportMaterializationFields.checks, firstFailure_append, firstFailure_cons,
    requireText_passes] at valid
  obtain ⟨⟨⟨status, materialization, url, pack, intent, candidate, packet, supportability, _⟩, _⟩,
    _⟩ := valid
  have built := construct_val (ε := PyError) m
  cases render : m.val.renderJobId.any PyText.isBlank with
  | true =>
      simp [reportMaterializationFromJson, reportMaterializationToJson, requiredString,
        optionalString, requiredBool, itemOr, blockers, shownText_str status,
        shownText_str materialization, shownText_str url, shownText_str pack,
        shownText_str intent, shownText_str candidate, shownText_str packet, render]
  | false =>
      cases archive : m.val.archiveDocumentId.any PyText.isBlank with
      | true =>
          simp [reportMaterializationFromJson, reportMaterializationToJson, requiredString,
            optionalString, requiredBool, itemOr, blockers, shownText_str status,
            shownText_str materialization, shownText_str url, shownText_str pack,
            shownText_str intent, shownText_str candidate, shownText_str packet, render, archive]
      | false =>
          simpa [reportMaterializationFromJson, reportMaterializationToJson, requiredString,
            optionalString, requiredBool, itemOr, blockers, shownText_str status,
            shownText_str materialization, shownText_str url, shownText_str pack,
            shownText_str intent, shownText_str candidate, shownText_str packet,
            shownText_str supportability, render, archive] using built

theorem reportMaterialization_read {m : ReportMaterializationReceiptEvidence}
    (shown : m.IdsShown) :
    reportMaterializationFromJson (reportMaterializationToJson m) = .ok m := by
  rw [reportMaterializationFromJson_toJson, shown.1, shown.2]
  rfl

theorem reportMaterialization_refused {m : ReportMaterializationReceiptEvidence}
    (hidden : ¬ m.IdsShown) :
    ∃ error, reportMaterializationFromJson (reportMaterializationToJson m) = .error error := by
  rw [reportMaterializationFromJson_toJson]
  cases render : m.val.renderJobId.any PyText.isBlank with
  | true => exact ⟨_, rfl⟩
  | false =>
      cases archive : m.val.archiveDocumentId.any PyText.isBlank with
      | true => exact ⟨_, rfl⟩
      | false => exact absurd ⟨render, archive⟩ hidden

def DownstreamSubmissionOwnerReceipt.IdsShown (receipt : DownstreamSubmissionOwnerReceipt) :
    Prop :=
  ∀ m ∈ receipt.val.reportMaterialization, m.IdsShown

@[simp] theorem sourceEventVersion_read (version : Option Int) :
    sourceEventVersionFromJson (ofOption .int version) = .ok version := by
  cases version <;> rfl

theorem ownerReceiptFromJson_toJson {receipt : DownstreamSubmissionOwnerReceipt}
    (shown : receipt.IdsShown) : ownerReceiptFromJson (ownerReceiptToJson receipt) = .ok receipt := by
  have valid := receipt.valid
  simp only [OwnerReceiptFields.checks, firstFailure_append, firstFailure_cons,
    requireText_passes, requireOptionalText_passes] at valid
  obtain ⟨⟨request, realization, work, _, fingerprint, _⟩, _⟩ := valid
  have authority := shownText_member (sourceSystem_shown receipt.val.ownerAuthority)
  have materialization : readOptional reportMaterializationFromJson
      (ofOption reportMaterializationToJson receipt.val.reportMaterialization) =
        .ok receipt.val.reportMaterialization :=
    readOptional_back _ (fun _ => Json.noConfusion) fun m member =>
      reportMaterialization_read (shown m member)
  simpa [ownerReceiptFromJson, ownerReceiptToJson, requiredString, optionalString, itemOr,
    optionalItem, authority, shownText_str request, shownText_str realization, work,
    shownText_str fingerprint, materialization] using construct_val receipt

theorem ownerReceipt_refused {receipt : DownstreamSubmissionOwnerReceipt}
    (hidden : ¬ receipt.IdsShown) :
    ∃ error, ownerReceiptFromJson (ownerReceiptToJson receipt) = .error error := by
  simp only [DownstreamSubmissionOwnerReceipt.IdsShown, not_forall] at hidden
  obtain ⟨m, carried, hidden⟩ := hidden
  obtain ⟨error, refused⟩ := reportMaterialization_refused hidden
  rw [Option.mem_def] at carried
  have materialization : readOptional reportMaterializationFromJson
      (ofOption reportMaterializationToJson receipt.val.reportMaterialization) =
        .error error := by
    rw [carried]
    simp only [ofOption, Option.elim_some]
    have shape : ∃ fields, reportMaterializationToJson m = .obj fields := ⟨_, rfl⟩
    obtain ⟨fields, shape⟩ := shape
    rw [shape] at refused ⊢
    simp [readOptional, refused, Except.map]
  exact ⟨error, by simp [ownerReceiptFromJson, ownerReceiptToJson, itemOr, optionalItem,
    materialization]⟩

section
variable [Sha256]

/-- The times of the submission's audit entries are times of Python. -/
def DownstreamSubmissionRecord.Representable (record : DownstreamSubmissionRecord) : Prop :=
  ∀ entry ∈ record.val.auditHistory, entry.val.occurredAtUtc.InRange

/-- No report materialization of the submission carries a blank id. -/
def DownstreamSubmissionRecord.IdsShown (record : DownstreamSubmissionRecord) : Prop :=
  ∀ receipt ∈ record.val.ownerReceipt, receipt.IdsShown

/-- The row written for a submission. -/
def downstreamSubmissionRow (record : DownstreamSubmissionRecord) : Row :=
  downstreamSubmissionColumns.zip (downstreamSubmissionValues record)

theorem downstreamSubmissionFromRow_row {record : DownstreamSubmissionRecord}
    (representable : record.Representable) (shown : record.IdsShown) :
    downstreamSubmissionFromRow (downstreamSubmissionRow record) = .ok record := by
  have audit := readArray_back record.val.auditHistory fun entry member =>
    downstreamSubmissionAuditFromJson_toJson (representable entry member)
  have receipt : (record.val.ownerReceipt.map ownerReceiptToJson).mapM ownerReceiptFromJson =
      .ok record.val.ownerReceipt := by
    cases carried : record.val.ownerReceipt with
    | none => rfl
    | some receipt =>
        have read := ownerReceiptFromJson_toJson (shown receipt carried)
        simp [read]
  have member {α : Type} [PyEnum α] (a : α) : memberOf (PyEnum.value a) = .ok a := memberOf_value a
  have identity := member record.val.identityVersion
  have resource := member record.val.resourceType
  have target := member record.val.target
  have source := member record.val.sourceAuthority
  have status := member record.val.status
  simp only [PyEnum.value] at identity resource target source status
  simpa [downstreamSubmissionFromRow, downstreamSubmissionRow, downstreamSubmissionColumns,
    downstreamSubmissionValues, readColumn, audit, receipt, identity, resource, target, source,
    status] using construct_val record

theorem downstreamSubmissionFromRow_refused {record : DownstreamSubmissionRecord}
    (representable : record.Representable) (hidden : ¬ record.IdsShown) :
    ∃ error, downstreamSubmissionFromRow (downstreamSubmissionRow record) = .error error := by
  simp only [DownstreamSubmissionRecord.IdsShown, not_forall] at hidden
  obtain ⟨receipt, carried, hidden⟩ := hidden
  obtain ⟨error, refused⟩ := ownerReceipt_refused hidden
  rw [Option.mem_def] at carried
  have audit := readArray_back record.val.auditHistory fun entry member =>
    downstreamSubmissionAuditFromJson_toJson (representable entry member)
  have member {α : Type} [PyEnum α] (a : α) : memberOf (PyEnum.value a) = .ok a := memberOf_value a
  have identity := member record.val.identityVersion
  have resource := member record.val.resourceType
  have target := member record.val.target
  have source := member record.val.sourceAuthority
  have status := member record.val.status
  simp only [PyEnum.value] at identity resource target source status
  refine ⟨error, ?_⟩
  simp [downstreamSubmissionFromRow, downstreamSubmissionRow, downstreamSubmissionColumns,
    downstreamSubmissionValues, readColumn, audit, carried, refused, identity, resource, target,
    source, status]

end

end LotusIdea

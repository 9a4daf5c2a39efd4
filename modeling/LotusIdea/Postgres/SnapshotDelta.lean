import LotusIdea.Domain.DataLifecycle
import LotusIdea.Foundation.KeyedTables
import LotusIdea.Foundation.OrderedRows
import LotusIdea.Repository.Writes

/-!
# The delta of two snapshots

`postgres_repository_delta.py` with the inserts and the update that it calls, and the unit
of work of `postgres_mutation_retry.py`: a mutation runs on a loaded snapshot, and what it
changed there is written in one transaction.
-/

set_option autoImplicit false

namespace LotusIdea

/-! ## Rows and their keys -/

/-- What a write of the delta raises. -/
inductive DeltaError where
  | uniqueViolation (table key : String)
  | foreignKeyViolation (table : String)
  | concurrentIdempotencyMutation (idempotencyKey : String)
  | concurrentReviewIdentityMutation (resourceId : String)
  | concurrentConversionOutcomeMutation (conversionOutcomeId : String)
  | staleCandidateMutation (candidateId : String)
  | dataLifecycleWriteBlocked (candidateId blocker : String)
  | valueError (message : String)
  /-- What else the database raises. -/
  | databaseError (message : String)
  deriving DecidableEq, Repr

/-- `execute_postgres_mutation` runs once more after these. -/
def DeltaError.isConcurrent : DeltaError → Bool
  | .concurrentIdempotencyMutation _ | .concurrentReviewIdentityMutation _
  | .concurrentConversionOutcomeMutation _ => true
  | _ => false

open KeyedTable (Owned valuesOf)

/-- The table of what the candidates' records hold, by the text of the primary key. -/
abbrev OwnedTable (α : Type) := Dict String (Owned String α)

/-- Rows under an id of their own. -/
def identifiedRows {α : Type} (identity : α → String) (candidateId : String) (values : List α) :
    List (String × Owned String α) :=
  values.map fun value => (identity value, ⟨candidateId, value⟩)

def numberedKey (label candidateId : String) (index : ℕ) : String :=
  candidateId ++ ":" ++ label ++ ":" ++ toString index

/-- Rows under the candidate and a number that goes on from `start`. -/
def numberedRows {α : Type} (label candidateId : String) (start : ℕ) (values : List α) :
    List (String × Owned String α) :=
  values.mapIdx fun offset value =>
    (numberedKey label candidateId (start + offset), ⟨candidateId, value⟩)

/-- The columns of `idea_candidate_record` that are no copies of the candidate's. -/
structure StoredCandidateRow where
  candidate : IdeaCandidate
  evidenceHash : String
  persistedAtUtc : DateTime

structure IdempotencyRow where
  record : IdempotencyRecord
  candidateId : Option String

section
variable [Sha256]

structure SnapshotTables where
  candidates : Dict String StoredCandidateRow
  /-- `held_from_state or state` of the lifecycle controls. -/
  lifecycleControls : Dict String DataLifecycleState
  /-- By tenant, where there is one, and key. -/
  idempotencyRecords : Dict (Option String × String) IdempotencyRow
  versionHistory : OwnedTable CandidateVersionHistoryEntry
  lifecycleHistory : OwnedTable LifecycleHistoryEntry
  auditEvents : OwnedTable AuditEvent
  reviewDecisions : OwnedTable GovernedReviewDecision
  feedbackEvents : OwnedTable GovernedFeedbackEvent
  conversionIntents : OwnedTable GovernedConversionIntent
  /-- The owner is the candidate of the outcome's intent, by which a reader joins. -/
  conversionOutcomes : OwnedTable GovernedConversionOutcome
  reportEvidencePacks : OwnedTable GovernedReportEvidencePack
  aiLineageRecords : OwnedTable AIExplanationLineageRecord
  outboxEvents : Dict String OutboxEventRecord
  /-- By the identity that tenant and key make. -/
  submissions : SubmissionStore

/-- An insert into a table that refers to the candidates. -/
def SnapshotTables.insertOwned {α : Type} (t : SnapshotTables) (name : String)
    (taken : String → DeltaError) (table : OwnedTable α) (rows : List (String × Owned String α)) :
    Except DeltaError (OwnedTable α) :=
  KeyedTable.insertAll (fun row => (t.candidates.get? row.owner).isSome) taken
    (.foreignKeyViolation name) table rows

/-! ## The rows of a record -/

def versionRows (candidateId : String) (entries : List CandidateVersionHistoryEntry) :
    List (String × Owned String CandidateVersionHistoryEntry) :=
  identifiedRows (fun entry => candidateId ++ ":version:" ++ toString entry.val.materialVersion ++
    ":" ++ toString entry.val.evidenceVersion) candidateId entries

def reviewRows (candidateId : String) (decisions : List GovernedReviewDecision) :
    List (String × Owned String GovernedReviewDecision) :=
  identifiedRows (fun decision => decision.val.reviewId) candidateId decisions

def feedbackRows (candidateId : String) (events : List GovernedFeedbackEvent) :
    List (String × Owned String GovernedFeedbackEvent) :=
  identifiedRows (fun event => event.val.feedback.val.feedbackId) candidateId events

def intentRows (candidateId : String) (intents : List GovernedConversionIntent) :
    List (String × Owned String GovernedConversionIntent) :=
  identifiedRows (fun intent => intent.val.intent.val.conversionIntentId) candidateId intents

def packRows (candidateId : String) (packs : List GovernedReportEvidencePack) :
    List (String × Owned String GovernedReportEvidencePack) :=
  identifiedRows (fun pack => pack.val.reportEvidencePackId) candidateId packs

def lineageRows (candidateId : String) (records : List AIExplanationLineageRecord) :
    List (String × Owned String AIExplanationLineageRecord) :=
  identifiedRows (fun record => record.val.requestId) candidateId records

/-! ## The writes -/

/-- `assert_data_lifecycle_allows_candidate_writes`. -/
def assertLifecycleWriteAllowed (t : SnapshotTables) (candidateIds : List String) :
    Except DeltaError Unit :=
  ((Sql.orderBy id candidateIds.dedup).filter fun candidateId =>
    (t.candidates.get? candidateId).isSome).forM fun candidateId =>
      match t.lifecycleControls.get? candidateId with
      | none => .error (.dataLifecycleWriteBlocked candidateId "lifecycle_control_missing")
      | some state =>
          if state = .erased ∨ state = .purged then
            .error (.dataLifecycleWriteBlocked candidateId "candidate_erased")
          else .ok ()

/-- `insert_data_lifecycle_control_for_candidate`, under a scope. -/
def insertLifecycleControl (controls : Dict String DataLifecycleState) (candidateId : String) :
    Dict String DataLifecycleState :=
  match controls.get? candidateId with
  | some _ => controls
  | none => controls.set candidateId .active

/-- `_insert_candidate_record`. -/
def insertCandidateRecord (t : SnapshotTables) (record : CandidatePersistenceRecord) :
    Except DeltaError SnapshotTables := do
  let candidateId := record.val.candidate.val.candidateId
  let candidates ← KeyedTable.insert (fun _ => true) (.uniqueViolation "idea_candidate_record")
    (.foreignKeyViolation "idea_candidate_record") t.candidates
    (candidateId, ⟨record.val.candidate, record.val.evidenceHash, record.val.persistedAtUtc⟩)
  if record.val.candidate.val.accessScope.isNone then
    .error (.dataLifecycleWriteBlocked candidateId "tenant_scope_missing")
  else
    .ok { t with
      candidates := candidates
      lifecycleControls := insertLifecycleControl t.lifecycleControls candidateId }

/-- `_snapshot_candidate_tenant_id`. -/
def snapshotCandidateTenantId (snapshot : IdeaRepository) :
    Option String → Except DeltaError (Option String)
  | none => .ok none
  | some candidateId =>
      match (snapshot.candidateRecords.get? candidateId).bind fun record =>
          record.val.candidate.val.accessScope with
      | none => .error
          (.valueError "candidate-bound idempotency requires persisted tenant scope")
      | some scope => .ok (some scope.val.tenantId)

/-- `_insert_idempotency_record`. -/
def insertIdempotencyRecord (snapshot : IdeaRepository) (t : SnapshotTables)
    (record : IdempotencyRecord) (candidateId : Option String) :
    Except DeltaError SnapshotTables := do
  let tenantId ← snapshotCandidateTenantId snapshot candidateId
  let idempotencyRecords ← KeyedTable.insert
    (fun row => row.candidateId.all fun owner => (t.candidates.get? owner).isSome)
    (fun key => .concurrentIdempotencyMutation key.2)
    (.foreignKeyViolation "idea_idempotency_record")
    t.idempotencyRecords ((tenantId, record.key), ⟨record, candidateId⟩)
  return { t with idempotencyRecords }

/-- `update_postgres_candidate_record`: the row must be there, and as old as `before`. -/
def updateCandidateRecord (t : SnapshotTables) (before record : CandidatePersistenceRecord) :
    Except DeltaError SnapshotTables :=
  let candidateId := record.val.candidate.val.candidateId
  match t.candidates.get? candidateId with
  | none => .error (.staleCandidateMutation candidateId)
  | some row =>
      if row.candidate.val.updatedAtUtc.instant =
          before.val.candidate.val.updatedAtUtc.instant then
        .ok { t with
          candidates := t.candidates.set candidateId
            ⟨record.val.candidate, record.val.evidenceHash, row.persistedAtUtc⟩ }
      else .error (.staleCandidateMutation candidateId)

/-- `insert_postgres_conversion_outcome`: `ON CONFLICT DO NOTHING` is about the id, and about
the intent with the version of the source event. -/
def insertConversionOutcome (intents : OwnedTable GovernedConversionIntent)
    (table : OwnedTable GovernedConversionOutcome) (outcome : GovernedConversionOutcome) :
    Except DeltaError (OwnedTable GovernedConversionOutcome) :=
  let conversionOutcomeId := outcome.val.outcome.val.conversionOutcomeId
  if table.values.any fun row =>
      row.value.val.conversionIntentId = outcome.val.conversionIntentId &&
        row.value.val.sourceEventVersion = outcome.val.sourceEventVersion then
    .error (.concurrentConversionOutcomeMutation conversionOutcomeId)
  else
    KeyedTable.insert (fun _ => (intents.get? outcome.val.conversionIntentId).isSome)
      .concurrentConversionOutcomeMutation (.foreignKeyViolation "idea_conversion_outcome") table
      (conversionOutcomeId,
        ⟨((intents.get? outcome.val.conversionIntentId).map Owned.owner).getD "", outcome⟩)

def insertConversionOutcomes (intents : OwnedTable GovernedConversionIntent)
    (table : OwnedTable GovernedConversionOutcome) (outcomes : List GovernedConversionOutcome) :
    Except DeltaError (OwnedTable GovernedConversionOutcome) :=
  outcomes.foldlM (insertConversionOutcome intents) table

/-- `_insert_record_details`. -/
def insertRecordDetails (t : SnapshotTables) (record : CandidatePersistenceRecord) :
    Except DeltaError SnapshotTables := do
  let candidateId := record.val.candidate.val.candidateId
  let versionHistory ← t.insertOwned "idea_candidate_version_history"
    (.uniqueViolation "idea_candidate_version_history") t.versionHistory
    (versionRows candidateId record.val.versionHistory)
  let lifecycleHistory ← t.insertOwned "idea_lifecycle_history"
    (.uniqueViolation "idea_lifecycle_history") t.lifecycleHistory
    (numberedRows "lifecycle" candidateId 1 record.val.lifecycleHistory)
  let auditEvents ← t.insertOwned "idea_audit_event" (.uniqueViolation "idea_audit_event")
    t.auditEvents (numberedRows "audit" candidateId 1 record.val.auditEvents)
  let reviewDecisions ← t.insertOwned "idea_review_decision" .concurrentReviewIdentityMutation
    t.reviewDecisions (reviewRows candidateId record.val.reviewDecisions)
  let feedbackEvents ← t.insertOwned "idea_feedback_event" .concurrentReviewIdentityMutation
    t.feedbackEvents (feedbackRows candidateId record.val.feedbackEvents)
  let conversionIntents ← t.insertOwned "idea_conversion_intent"
    (.uniqueViolation "idea_conversion_intent") t.conversionIntents
    (intentRows candidateId record.val.conversionIntents)
  let conversionOutcomes ← insertConversionOutcomes conversionIntents t.conversionOutcomes
    record.val.conversionOutcomes
  let reportEvidencePacks ← t.insertOwned "idea_report_evidence_pack_request"
    (.uniqueViolation "idea_report_evidence_pack_request") t.reportEvidencePacks
    (packRows candidateId record.val.reportEvidencePacks)
  let aiLineageRecords ← t.insertOwned "idea_ai_explanation_lineage"
    (.uniqueViolation "idea_ai_explanation_lineage") t.aiLineageRecords
    (lineageRows candidateId record.val.aiExplanationLineageRecords)
  return { t with
    versionHistory, lifecycleHistory, auditEvents, reviewDecisions, feedbackEvents
    conversionIntents, conversionOutcomes, reportEvidencePacks, aiLineageRecords }

/-- The values whose ids the earlier ones do not have. -/
def newValues {α : Type} (identity : α → String) (before after : List α) : List α :=
  after.filter fun value => identity value ∉ before.map identity

/-- The update, where the candidate changed. -/
def updateChangedCandidate (t : SnapshotTables) (before after : CandidatePersistenceRecord) :
    Except DeltaError SnapshotTables :=
  if after.val.candidate.equals before.val.candidate then .ok t
  else updateCandidateRecord t before after

/-- `_insert_review_identity_delta`, `_insert_conversion_outcome_delta`, the update, and
`_insert_record_detail_delta`. -/
def writeRecordDelta (t : SnapshotTables) (before after : CandidatePersistenceRecord) :
    Except DeltaError SnapshotTables := do
  let candidateId := after.val.candidate.val.candidateId
  let reviewDecisions ← t.insertOwned "idea_review_decision" .concurrentReviewIdentityMutation
    t.reviewDecisions
    (reviewRows candidateId (newValues (fun decision => decision.val.reviewId)
      before.val.reviewDecisions after.val.reviewDecisions))
  let feedbackEvents ← t.insertOwned "idea_feedback_event" .concurrentReviewIdentityMutation
    t.feedbackEvents
    (feedbackRows candidateId (newValues (fun event => event.val.feedback.val.feedbackId)
      before.val.feedbackEvents after.val.feedbackEvents))
  let conversionOutcomes ← insertConversionOutcomes t.conversionIntents t.conversionOutcomes
    (newValues (fun outcome => outcome.val.outcome.val.conversionOutcomeId)
      before.val.conversionOutcomes after.val.conversionOutcomes)
  let t ← updateChangedCandidate t before after
  let versionHistory ← t.insertOwned "idea_candidate_version_history"
    (.uniqueViolation "idea_candidate_version_history") t.versionHistory
    (versionRows candidateId (after.val.versionHistory.drop before.val.versionHistory.length))
  let lifecycleHistory ← t.insertOwned "idea_lifecycle_history"
    (.uniqueViolation "idea_lifecycle_history") t.lifecycleHistory
    (numberedRows "lifecycle" candidateId (before.val.lifecycleHistory.length + 1)
      (after.val.lifecycleHistory.drop before.val.lifecycleHistory.length))
  let auditEvents ← t.insertOwned "idea_audit_event" (.uniqueViolation "idea_audit_event")
    t.auditEvents
    (numberedRows "audit" candidateId (before.val.auditEvents.length + 1)
      (after.val.auditEvents.drop before.val.auditEvents.length))
  let conversionIntents ← t.insertOwned "idea_conversion_intent"
    (.uniqueViolation "idea_conversion_intent") t.conversionIntents
    (intentRows candidateId
      (newValues (fun intent => intent.val.intent.val.conversionIntentId)
        before.val.conversionIntents after.val.conversionIntents))
  let reportEvidencePacks ← t.insertOwned "idea_report_evidence_pack_request"
    (.uniqueViolation "idea_report_evidence_pack_request") t.reportEvidencePacks
    (packRows candidateId (newValues (fun pack => pack.val.reportEvidencePackId)
      before.val.reportEvidencePacks after.val.reportEvidencePacks))
  let aiLineageRecords ← t.insertOwned "idea_ai_explanation_lineage"
    (.uniqueViolation "idea_ai_explanation_lineage") t.aiLineageRecords
    (lineageRows candidateId (newValues (fun record => record.val.requestId)
      before.val.aiExplanationLineageRecords after.val.aiExplanationLineageRecords))
  return { t with
    versionHistory, lifecycleHistory, auditEvents, reviewDecisions, feedbackEvents
    conversionIntents, conversionOutcomes, reportEvidencePacks, aiLineageRecords }

/-! ## The delta -/

/-- `_submission_candidate_id`. -/
def submissionCandidateId (snapshot : IdeaRepository) (submission : DownstreamSubmissionRecord) :
    Option String :=
  match submission.val.resourceType with
  | .conversionIntent => snapshot.conversionIntentCandidates.get? submission.val.resourceId
  | .reportEvidencePack => snapshot.reportEvidencePackCandidates.get? submission.val.resourceId

/-- `_mutated_candidate_ids`. -/
def mutatedCandidateIds (before after : IdeaRepository) : List String :=
  (after.candidateRecords.entries.filterMap fun (candidateId, record) =>
    if before.candidateRecords.get? candidateId = some record then none else some candidateId) ++
  (after.outbox.events.entries.filterMap fun (eventId, event) =>
    if (before.outbox.events.get? eventId).isNone ∧ event.val.aggregateType = "idea_candidate" then
      some event.val.aggregateId
    else none) ++
  after.downstreamSubmissions.entries.filterMap fun (key, submission) =>
    if (before.downstreamSubmissions.get? key).isNone then submissionCandidateId after submission
    else none

/-- The entries whose keys the earlier dictionary does not have. -/
def newEntries {κ α : Type} [DecidableEq κ] (before after : Dict κ α) : List (κ × α) :=
  after.entries.filter fun entry => (before.get? entry.1).isNone

/-- The candidates that the earlier snapshot does not have. -/
def insertNewCandidates (before after : IdeaRepository) (t : SnapshotTables) :
    Except DeltaError SnapshotTables :=
  (newEntries before.candidateRecords after.candidateRecords).foldlM
    (fun t entry => insertCandidateRecord t entry.2) t

/-- The keys that the earlier snapshot does not have. -/
def insertNewKeys (before after : IdeaRepository) (t : SnapshotTables) :
    Except DeltaError SnapshotTables :=
  (newEntries before.idempotencyRecords after.idempotencyRecords).foldlM
    (fun t entry => insertIdempotencyRecord after t entry.2
      (after.idempotencyCandidates.get? entry.1)) t

/-- The details of a new record, or the delta of one that was there. -/
def writeRecordEntry (before : IdeaRepository) (t : SnapshotTables)
    (entry : String × CandidatePersistenceRecord) : Except DeltaError SnapshotTables :=
  match before.candidateRecords.get? entry.1 with
  | none => insertRecordDetails t entry.2
  | some record => writeRecordDelta t record entry.2

/-- `apply_postgres_snapshot_delta`. -/
def applySnapshotDelta (t : SnapshotTables) (before after : IdeaRepository) :
    Except DeltaError SnapshotTables := do
  assertLifecycleWriteAllowed t (mutatedCandidateIds before after)
  let t ← insertNewCandidates before after t
  let t ← insertNewKeys before after t
  let t ← after.candidateRecords.entries.foldlM (writeRecordEntry before) t
  let outboxEvents ← KeyedTable.insertAll (fun _ => true) (.uniqueViolation "idea_outbox_event")
    (.foreignKeyViolation "idea_outbox_event") t.outboxEvents
    (newEntries before.outbox.events after.outbox.events)
  let submissions ← KeyedTable.insertAll (fun _ => true)
    (.uniqueViolation "idea_downstream_submission")
    (.foreignKeyViolation "idea_downstream_submission") t.submissions
    (newEntries before.downstreamSubmissions after.downstreamSubmissions)
  return { t with outboxEvents, submissions }

end

end LotusIdea

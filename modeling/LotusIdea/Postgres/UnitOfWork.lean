import LotusIdea.Foundation.LockedUnits
import LotusIdea.Postgres.SnapshotDelta

/-!
# Units of work

`load_candidate_mutation_snapshot` and `execute_postgres_mutation`: a worker locks the
candidates that a call can reach, reads them, runs the call on what it read, and commits
the delta or rolls back.  Any number of workers do so at once.
-/

set_option autoImplicit false

namespace LotusIdea

open KeyedTable (Owned valuesOf)

section
variable [Sha256]

/-! ## What the tables hold of a candidate -/

/-- The lists of a record. -/
@[ext] structure RecordLists where
  versionHistory : List CandidateVersionHistoryEntry := []
  lifecycleHistory : List LifecycleHistoryEntry := []
  auditEvents : List AuditEvent := []
  reviewDecisions : List GovernedReviewDecision := []
  feedbackEvents : List GovernedFeedbackEvent := []
  conversionIntents : List GovernedConversionIntent := []
  conversionOutcomes : List GovernedConversionOutcome := []
  reportEvidencePacks : List GovernedReportEvidencePack := []
  aiLineageRecords : List AIExplanationLineageRecord := []

def CandidatePersistenceRecord.lists (record : CandidatePersistenceRecord) : RecordLists where
  versionHistory := record.val.versionHistory
  lifecycleHistory := record.val.lifecycleHistory
  auditEvents := record.val.auditEvents
  reviewDecisions := record.val.reviewDecisions
  feedbackEvents := record.val.feedbackEvents
  conversionIntents := record.val.conversionIntents
  conversionOutcomes := record.val.conversionOutcomes
  reportEvidencePacks := record.val.reportEvidencePacks
  aiLineageRecords := record.val.aiExplanationLineageRecords

namespace RecordLists

def append (l tail : RecordLists) : RecordLists where
  versionHistory := l.versionHistory ++ tail.versionHistory
  lifecycleHistory := l.lifecycleHistory ++ tail.lifecycleHistory
  auditEvents := l.auditEvents ++ tail.auditEvents
  reviewDecisions := l.reviewDecisions ++ tail.reviewDecisions
  feedbackEvents := l.feedbackEvents ++ tail.feedbackEvents
  conversionIntents := l.conversionIntents ++ tail.conversionIntents
  conversionOutcomes := l.conversionOutcomes ++ tail.conversionOutcomes
  reportEvidencePacks := l.reportEvidencePacks ++ tail.reportEvidencePacks
  aiLineageRecords := l.aiLineageRecords ++ tail.aiLineageRecords

def empty : RecordLists := {}

/-- The same lists, but for the order within each. -/
structure Perm (l other : RecordLists) : Prop where
  versionHistory : l.versionHistory.Perm other.versionHistory
  lifecycleHistory : l.lifecycleHistory.Perm other.lifecycleHistory
  auditEvents : l.auditEvents.Perm other.auditEvents
  reviewDecisions : l.reviewDecisions.Perm other.reviewDecisions
  feedbackEvents : l.feedbackEvents.Perm other.feedbackEvents
  conversionIntents : l.conversionIntents.Perm other.conversionIntents
  conversionOutcomes : l.conversionOutcomes.Perm other.conversionOutcomes
  reportEvidencePacks : l.reportEvidencePacks.Perm other.reportEvidencePacks
  aiLineageRecords : l.aiLineageRecords.Perm other.aiLineageRecords

end RecordLists

structure CandidateRows where
  candidate : Option StoredCandidateRow
  lifecycleState : Option DataLifecycleState
  lists : RecordLists

def SnapshotTables.listsOf (t : SnapshotTables) (candidateId : String) : RecordLists where
  versionHistory := valuesOf t.versionHistory candidateId
  lifecycleHistory := valuesOf t.lifecycleHistory candidateId
  auditEvents := valuesOf t.auditEvents candidateId
  reviewDecisions := valuesOf t.reviewDecisions candidateId
  feedbackEvents := valuesOf t.feedbackEvents candidateId
  conversionIntents := valuesOf t.conversionIntents candidateId
  conversionOutcomes := valuesOf t.conversionOutcomes candidateId
  reportEvidencePacks := valuesOf t.reportEvidencePacks candidateId
  aiLineageRecords := valuesOf t.aiLineageRecords candidateId

def SnapshotTables.rowsOf (t : SnapshotTables) (candidateId : String) : CandidateRows where
  candidate := t.candidates.get? candidateId
  lifecycleState := t.lifecycleControls.get? candidateId
  lists := t.listsOf candidateId

/-- `COALESCE(held_from_state, state, 'active') IN ('erased', 'purged')`. -/
def CandidateRows.isClosed (rows : CandidateRows) : Bool :=
  match rows.lifecycleState with
  | some .erased | some .purged => true
  | _ => false

/-- A record as `load_candidate_record_for_mutation` reads it: each list in the order of its
query, which may leave ties to the database. -/
structure CandidateRows.Shows (rows : CandidateRows) (record : CandidatePersistenceRecord) :
    Prop where
  candidate : ∃ row, rows.candidate = some row ∧
    record.val.candidate.equals row.candidate = true ∧
    record.val.evidenceHash = row.evidenceHash ∧
    record.val.persistedAtUtc = row.persistedAtUtc
  lists : record.lists.Perm rows.lists

/-- Each row stands under the id of its value. -/
def KeyedById {α : Type} (identity : α → String) (table : OwnedTable α) : Prop :=
  ∀ key row, table.get? key = some row → identity row.value = key

/-- Rows of candidates that are there, candidates and intents under their own ids; an outcome
belongs to the candidate of its intent. -/
structure SnapshotTables.WellFormed (t : SnapshotTables) : Prop where
  keyed : ∀ candidateId row, t.candidates.get? candidateId = some row →
    row.candidate.val.candidateId = candidateId
  owned : ∀ candidateId, t.candidates.get? candidateId = none →
    t.listsOf candidateId = RecordLists.empty
  intents : KeyedById (fun intent => intent.val.intent.val.conversionIntentId) t.conversionIntents
  outcomes : ∀ row ∈ t.conversionOutcomes.values,
    (t.conversionIntents.get? row.value.val.conversionIntentId).map Owned.owner = some row.owner

/-! ## Loading -/

/-- The candidate of an intent's row. -/
def SnapshotTables.intentCandidate (t : SnapshotTables) (conversionIntentId : String) :
    Option String :=
  (t.conversionIntents.get? conversionIntentId).map Owned.owner

/-- The candidates that the repository's method passes to `_mutate_candidate`, and the ones
that its loader of related candidates finds. -/
def lockedCandidates (t : SnapshotTables) : MutationCall → List String
  | .persistCandidate q => [q.candidate.val.candidateId]
  | .recordLifecycleTransition q => [q.candidateId]
  | .recordReviewAction q =>
      q.result.decision.val.candidateId ::
        ((t.reviewDecisions.get? q.result.decision.val.reviewId).map Owned.owner).toList
  | .recordFeedbackEvent q =>
      q.result.feedbackEvent.val.candidateId ::
        ((t.feedbackEvents.get? q.result.feedbackEvent.val.feedback.val.feedbackId).map
          Owned.owner).toList
  | .recordConversionIntent q =>
      q.result.conversionIntent.val.intent.val.candidateId ::
        (t.intentCandidate q.result.conversionIntent.val.intent.val.conversionIntentId).toList
  | .recordConversionOutcome q =>
      (t.intentCandidate q.result.conversionOutcome.val.conversionIntentId).toList ++
        ((t.conversionOutcomes.get?
          q.result.conversionOutcome.val.outcome.val.conversionOutcomeId).bind fun row =>
            t.intentCandidate row.value.val.conversionIntentId).toList
  | .recordReportEvidencePack q => [q.result.evidencePack.val.candidateId]

/-- `conversion_intent_candidates` of the loaded records. -/
def loadedIntentCandidates (records : CandidateRecords) : Dict String String :=
  (records.entries.flatMap fun entry =>
    entry.2.val.conversionIntents.map fun intent =>
      (intent.val.intent.val.conversionIntentId, entry.1)).foldl
    (fun filled item => filled.set item.1 item.2) Dict.empty

/-- The row of the call's key, where the method found a tenant. -/
def SnapshotTables.keyRow (t : SnapshotTables) (call : MutationCall) (tenantId : Option String) :
    Option IdempotencyRow :=
  tenantId.bind fun tenant => t.idempotencyRecords.get? (some tenant, call.request.idempotencyKey)

/-- `load_candidate_mutation_snapshot`, of what the mutations look at. -/
structure LoadsSnapshot (t : SnapshotTables) (call : MutationCall) (tenantId : Option String)
    (before : IdeaRepository) : Prop where
  records : ∀ candidateId record, before.candidateRecords.get? candidateId = some record →
    (candidateId ∈ lockedCandidates t call ∨
      ((t.keyRow call tenantId).bind IdempotencyRow.candidateId) = some candidateId) ∧
    (t.rowsOf candidateId).isClosed = false ∧ (t.rowsOf candidateId).Shows record
  absent : ∀ candidateId, (candidateId ∈ lockedCandidates t call ∨
      ((t.keyRow call tenantId).bind IdempotencyRow.candidateId) = some candidateId) →
    before.candidateRecords.get? candidateId = none →
    t.candidates.get? candidateId = none ∨ (t.rowsOf candidateId).isClosed = true
  idempotencyRecords : ∀ storageKey, before.idempotencyRecords.get? storageKey =
    (tenantId.bind fun tenant =>
      if storageKey = tenantStorageKey tenant call.request.idempotencyKey then
        (t.keyRow call tenantId).map IdempotencyRow.record
      else none)
  conversionIntentCandidates :
    before.conversionIntentCandidates = loadedIntentCandidates before.candidateRecords
  outbox : before.outbox.events = Dict.empty
  submissions : before.downstreamSubmissions = Dict.empty

/-! ## One attempt -/

inductive MutationError where
  | operation (raised : PyError)
  | delta (raised : DeltaError)

/-- The body of the loop in `execute_postgres_mutation`, after the load: what raises leaves
the tables as they were.  `refusal` is what the rest of the database raises: constraints
that are not modelled, and failures. -/
def attemptMutation (refusal : Option DeltaError) (t : SnapshotTables) (before : IdeaRepository)
    (call : MutationCall) :
    Except MutationError PersistenceResult × SnapshotTables :=
  match before.mutate call with
  | (.error raised, _) => (.error (.operation raised), t)
  | (.ok result, after) =>
      match refusal with
      | some raised => (.error (.delta raised), t)
      | none =>
          match applySnapshotDelta t before after with
          | .error raised => (.error (.delta raised), t)
          | .ok next => (.ok result, next)

/-! ## Workers -/

inductive UnitPhase where
  | idle
  | waiting (call : MutationCall) (retried : Bool)
  | holding (call : MutationCall) (retried : Bool) (locks : List String) (before : IdeaRepository)
  | finished (call : MutationCall) (answer : Except MutationError PersistenceResult)

/-- A concurrent mutation is tried once more, from a fresh snapshot. -/
def phaseAfter (call : MutationCall) (retried : Bool) :
    Except MutationError PersistenceResult → UnitPhase
  | .error (.delta raised) =>
      if raised.isConcurrent ∧ retried = false then .waiting call true
      else .finished call (.error (.delta raised))
  | answer => .finished call answer

namespace UnitPhase

def locks : UnitPhase → List String
  | .holding _ _ locks _ => locks
  | _ => []

/-- The worker can be called. -/
def isFree : UnitPhase → Bool
  | .idle | .finished _ _ => true
  | _ => false

end UnitPhase

structure UnitSystem (W : Type) where
  tables : SnapshotTables
  phase : W → UnitPhase

/-- One step of one worker, or of what else writes to the database.  A load waits until the
advisory locks of its candidates are free, and keeps them until the transaction ends.  From
outside, the rows of a candidate only change when it is erased, and that is for good. -/
inductive UnitStep {W : Type} [DecidableEq W] (s : UnitSystem W) : UnitSystem W → Prop
  | call (worker : W) (call : MutationCall) (governed : call.Governed)
      (free : (s.phase worker).isFree = true) :
      UnitStep s ⟨s.tables, Function.update s.phase worker (.waiting call false)⟩
  | load (worker : W) (call : MutationCall) (retried : Bool) (tenantId : Option String)
      (before : IdeaRepository) (waits : s.phase worker = .waiting call retried)
      (free : ∀ other, other ≠ worker →
        (lockedCandidates s.tables call).Disjoint (s.phase other).locks)
      (loaded : LoadsSnapshot s.tables call tenantId before) :
      UnitStep s ⟨s.tables, Function.update s.phase worker
        (.holding call retried (lockedCandidates s.tables call) before)⟩
  | loadFails (worker : W) (call : MutationCall) (retried : Bool) (raised : DeltaError)
      (waits : s.phase worker = .waiting call retried) :
      UnitStep s ⟨s.tables, Function.update s.phase worker
        (phaseAfter call retried (.error (.delta raised)))⟩
  | attempt (worker : W) (call : MutationCall) (retried : Bool) (locks : List String)
      (before : IdeaRepository) (refusal : Option DeltaError)
      (holds : s.phase worker = .holding call retried locks before) :
      UnitStep s ⟨(attemptMutation refusal s.tables before call).2,
        Function.update s.phase worker
          (phaseAfter call retried (attemptMutation refusal s.tables before call).1)⟩
  | outside (next : SnapshotTables) (wellFormed : next.WellFormed)
      (kept : ∀ candidateId, (next.rowsOf candidateId).isClosed = true ∨
        (s.tables.rowsOf candidateId).isClosed = false ∧
          next.candidates.get? candidateId = s.tables.candidates.get? candidateId ∧
          next.listsOf candidateId = s.tables.listsOf candidateId) :
      UnitStep s ⟨next, s.phase⟩

end

end LotusIdea

import LotusIdea.Application.ReviewQueueRead
import LotusIdea.Foundation.OrderedRows
import LotusIdea.Postgres.CandidateTable
import LotusIdea.Postgres.WorkflowJson

/-!
# The queries of the review queue

`postgres_review_queue.py`: the candidates of an audience joined with their latest
review, the predicates of a page, and the `CASE` that classifies for the readiness
counts.  The scan meets the rows in the order in which the records list them.
-/

set_option autoImplicit false

namespace LotusIdea

open Json Sql

/-! ## Tables -/

/-- The columns of `idea_review_decision` that the queries read. -/
structure ReviewDecisionRow where
  reviewDecisionId : String
  candidateId : String
  action : String
  decisionJson : Json
  acceptedAtUtc : DateTime

/-- The columns of `idea_candidate_version_history` that the queries read. -/
structure VersionHistoryRow where
  candidateId : String
  materialVersion : Int
  recordedAtUtc : DateTime

structure ReviewQueueTables where
  candidates : List CandidateRow
  reviewDecisions : List ReviewDecisionRow
  versionHistory : List VersionHistoryRow

namespace CandidatePersistenceRecord

def write (r : CandidatePersistenceRecord) : CandidateWrite :=
  ⟨r.val.candidate, r.val.evidenceHash, r.val.persistedAtUtc⟩

/-- The row of `_insert_review_decision`. -/
def reviewDecisionRow (r : CandidatePersistenceRecord) (decision : GovernedReviewDecision) :
    ReviewDecisionRow where
  reviewDecisionId := decision.val.reviewId
  candidateId := r.val.candidate.val.candidateId
  action := decision.val.action.value
  decisionJson := reviewDecisionToJson decision
  acceptedAtUtc := decision.val.acceptedAtUtc

/-- The row of `_insert_version_history_entry`. -/
def versionHistoryRow (r : CandidatePersistenceRecord) (entry : CandidateVersionHistoryEntry) :
    VersionHistoryRow where
  candidateId := r.val.candidate.val.candidateId
  materialVersion := entry.val.materialVersion
  recordedAtUtc := entry.val.recordedAtUtc

end CandidatePersistenceRecord

/-- The tables with these records. -/
def reviewQueueTables [Sha256] (records : List CandidatePersistenceRecord) : ReviewQueueTables where
  candidates := records.map fun record => record.write.row
  reviewDecisions := records.flatMap fun r => r.val.reviewDecisions.map r.reviewDecisionRow
  versionHistory := records.flatMap fun r => r.val.versionHistory.map r.versionHistoryRow

/-! ## The base of the queries -/

namespace ReviewQueueTables

/-- The time from which reviews of a candidate count. -/
def materialStartedAt (tables : ReviewQueueTables) (row : CandidateRow) : Option DateTime :=
  let recorded := (tables.versionHistory.filter fun history =>
    history.candidateId = row.candidateId ∧ history.materialVersion = row.materialVersion).map
      fun history => history.recordedAtUtc
  coalesce [firstBy DateTime.instant recorded, row.createdAtUtc]

/-- `_latest_review_lateral_join`. -/
def latestReview (tables : ReviewQueueTables) (row : CandidateRow) (evaluatedAtUtc : DateTime) :
    Option ReviewDecisionRow :=
  let applicable := tables.reviewDecisions.filter fun review =>
    conj
      [equal (some review.candidateId) (some row.candidateId),
       notAfter (some review.acceptedAtUtc) (some evaluatedAtUtc),
       notAfter (tables.materialStartedAt row) (some review.acceptedAtUtc)] = some true
  (page (orderBy (fun review => OrderDual.toDual
    (toLex (review.acceptedAtUtc.instant, review.reviewDecisionId))) applicable) 1 0).head?

end ReviewQueueTables

/-- A row of `base`. -/
structure ReviewQueueRow where
  candidate : CandidateRow
  latestReview : Option ReviewDecisionRow

namespace ReviewQueueRow

def latestReviewAction (row : ReviewQueueRow) : Option String := row.latestReview.map (·.action)

def latestSnoozedUntilUtc (row : ReviewQueueRow) : Option DateTime :=
  row.latestReview.bind fun review =>
    timestamptz (arrowText (some review.decisionJson) "snoozed_until_utc")

/-- `candidate_json -> key`. -/
def part (row : ReviewQueueRow) (key : String) : Option Json :=
  arrow (some row.candidate.candidateJson) key

def queueScore (row : ReviewQueueRow) : Option ℚ := numeric (arrowText (row.part "score") "score")

def queueCreatedAtUtc (row : ReviewQueueRow) : Option String :=
  row.candidate.text "created_at_utc"

def applicabilityExpiresAtUtc (row : ReviewQueueRow) : Option DateTime :=
  timestamptz (arrowText (row.part "evidence_packet") "applicability_expires_at_utc")

def supportability (row : ReviewQueueRow) : Option String :=
  arrowText (row.part "evidence_packet") "supportability"

def scorePolicyVersion (row : ReviewQueueRow) : Option String :=
  arrowText (row.part "score") "policy_version"

/-- `latest_review_action = 'snooze' AND latest_snoozed_until_utc > t`. -/
def snoozed (row : ReviewQueueRow) (evaluatedAtUtc : DateTime) : Truth :=
  conj
    [equal row.latestReviewAction (some ReviewAction.snooze.value),
     later row.latestSnoozedUntilUtc (some evaluatedAtUtc)]

/-- `candidate_record_state_compatibility_sql`. -/
def stateCompatible (row : ReviewQueueRow) : Truth :=
  conj
    [equal (row.candidate.text "lifecycle_status") (some row.candidate.lifecycleStatus),
     equal (row.candidate.text "review_posture") (some row.candidate.reviewPosture),
     disj ((PyEnum.members (α := IdeaLifecycleStatus)).map fun status =>
       conj
        [equal (some row.candidate.lifecycleStatus) (some status.value),
         oneOf (some row.candidate.reviewPosture)
          ((allowedReviewPosturesByLifecycle status).map ReviewPosture.value)])]

end ReviewQueueRow

/-- `REVIEW_QUEUE_ACCESS_SCOPE_FILTER_FIELDS` with the values asked for. -/
def QueueAccessScopeFilter.fields (f : QueueAccessScopeFilter) : List (String × List String) :=
  [("tenant_id", f.tenantId), ("book_id", f.bookId), ("portfolio_id", f.portfolioId),
   ("client_id", f.clientId)].filter fun field => !field.2.isEmpty

/-- `_normalize_rankable_score_policy_versions`. -/
def normalizeRankableScorePolicyVersions (policyVersions : List String) :
    Except PyError (List String) := do
  let normalized := normalizedVersions policyVersions
  validate
    [(normalized.isEmpty || normalized.contains "",
       .valueError "rankable_score_policy_versions is required"),
     (!decide normalized.Nodup, .valueError "rankable_score_policy_versions must be unique")]
  return normalized

namespace ReviewQueueTables

/-- A candidate with its latest review. -/
def joined (tables : ReviewQueueTables) (evaluatedAtUtc : DateTime) (row : CandidateRow) :
    ReviewQueueRow :=
  ⟨row, tables.latestReview row evaluatedAtUtc⟩

/-- `base`. -/
def base (tables : ReviewQueueTables) (audience : ReviewQueueAudience)
    (evaluatedAtUtc : DateTime) : List ReviewQueueRow :=
  (tables.candidates.filter fun row => row.queueBase evaluatedAtUtc audience = some true).map
    (tables.joined evaluatedAtUtc)

end ReviewQueueTables

/-! ## Pages -/

namespace ReviewQueueRow

/-- `_review_queue_candidate_predicates`. -/
def eligible (row : ReviewQueueRow) (evaluatedAtUtc : DateTime)
    (rankableScorePolicyVersions : List String)
    (accessScopeFilter : Option QueueAccessScopeFilter) : Truth :=
  conj
    ([row.stateCompatible,
      coalesce [later row.applicabilityExpiresAtUtc (some evaluatedAtUtc), some true],
      oneOf (some row.candidate.lifecycleStatus)
        (reviewableLifecycleStatuses.map IdeaLifecycleStatus.value),
      negate (equal (some row.candidate.reviewPosture) (some ReviewPosture.suppressed.value)),
      isNull (row.candidate.text "suppression_reason"),
      negate (coalesce [row.snoozed evaluatedAtUtc, some false]),
      isNotNull (row.part "score"),
      oneOf row.scorePolicyVersion rankableScorePolicyVersions,
      negate (equal row.supportability (some EvidenceSupportability.blocked.value))] ++
     (accessScopeFilter.elim [] fun filter => filter.fields.map fun (field, values) =>
       oneOf (arrowText (row.part "access_scope") field) values))

/-- `ORDER BY queue_score DESC, queue_created_at_utc, candidate_id`. -/
def pageKey (row : ReviewQueueRow) : (WithTop ℚ)ᵒᵈ ×ₗ WithTop String ×ₗ String :=
  toLex (OrderDual.toDual (nullsLast row.queueScore),
    toLex (nullsLast row.queueCreatedAtUtc, row.candidate.candidateId))

end ReviewQueueRow

section
variable [Sha256]

/-- The candidates of `load_review_queue_candidate_page`. -/
def ReviewQueueTables.candidatePage (tables : ReviewQueueTables) (audience : ReviewQueueAudience)
    (rankableScorePolicyVersions : List String) (evaluatedAtUtc : DateTime)
    (accessScopeFilter : Option QueueAccessScopeFilter) (limit offset : Nat) :
    Decoded (List IdeaCandidate) := do
  (validate [(decide (limit < 1), .valueError "limit must be positive")]).mapError .raised
  let versions ←
    (normalizeRankableScorePolicyVersions rankableScorePolicyVersions).mapError .raised
  let eligible := (tables.base audience evaluatedAtUtc).filter fun row =>
    row.eligible evaluatedAtUtc versions accessScopeFilter = some true
  ((page (orderBy ReviewQueueRow.pageKey eligible) limit offset).map fun row =>
    row.candidate.candidateJson).mapM candidateFromJson

/-- The items of `_page_repository_review_queue`. -/
def ReviewQueueTables.queuePage (tables : ReviewQueueTables) (audience : ReviewQueueAudience)
    (policy : ReviewQueuePolicy) (evaluatedAtUtc : DateTime)
    (accessScopeFilter : Option QueueAccessScopeFilter) (limit offset : Nat) :
    Decoded (List ReviewQueueItem) := do
  let candidates ← tables.candidatePage audience policy.val.rankableScorePolicyVersions
    evaluatedAtUtc accessScopeFilter limit offset
  let queue ← (buildReviewQueue candidates audience policy evaluatedAtUtc [] accessScopeFilter).mapError
    .raised
  return queue.items.mapIdx fun index item => { item with rank := offset + index + 1 }

/-- The items of the first pages of one size. -/
def ReviewQueueTables.queuePages (tables : ReviewQueueTables) (audience : ReviewQueueAudience)
    (policy : ReviewQueuePolicy) (evaluatedAtUtc : DateTime)
    (accessScopeFilter : Option QueueAccessScopeFilter) (limit count : Nat) :
    Decoded (List ReviewQueueItem) := do
  let pages ← (List.range count).mapM fun k =>
    tables.queuePage audience policy evaluatedAtUtc accessScopeFilter limit (k * limit)
  return pages.flatten

end

/-! ## Readiness -/

namespace ReviewQueueRow

/-- `_access_scope_mismatch_predicate`. -/
def accessScopeMismatch (row : ReviewQueueRow) : Option QueueAccessScopeFilter → Truth
  | none => some false
  | some filter =>
      if filter.isEmpty then some false
      else
        disj (isNull (row.part "access_scope") :: filter.fields.flatMap fun (field, values) =>
          let stored := arrowText (row.part "access_scope") field
          [isNull stored, negate (oneOf stored values)])

/-- `_review_queue_readiness_exclusion_case`. -/
def exclusionReason (row : ReviewQueueRow) (evaluatedAtUtc : DateTime)
    (rankableScorePolicyVersions : List String)
    (accessScopeFilter : Option QueueAccessScopeFilter) : Option QueueExclusionReason :=
  caseWhen
    [(row.accessScopeMismatch accessScopeFilter, .accessScopeMismatch),
     (negate row.stateCompatible, .invalidState),
     (coalesce [notAfter row.applicabilityExpiresAtUtc (some evaluatedAtUtc), some false],
       .expired),
     (row.snoozed evaluatedAtUtc, .snoozed),
     (equal (row.candidate.text "suppression_reason") (some SuppressionReason.duplicate.value),
       .duplicate),
     (disj
        [equal (some row.candidate.reviewPosture) (some ReviewPosture.suppressed.value),
         isNotNull (row.candidate.text "suppression_reason")],
       .suppressed),
     (equal (some row.candidate.lifecycleStatus) (some IdeaLifecycleStatus.expired.value),
       .expired),
     (equal (some row.candidate.lifecycleStatus) (some IdeaLifecycleStatus.closed.value),
       .closed),
     (equal (some row.candidate.lifecycleStatus) (some IdeaLifecycleStatus.rejected.value),
       .rejected),
     (equal row.supportability (some EvidenceSupportability.blocked.value),
       .unsupportedEvidence),
     (isNull (row.part "score"), .unscored),
     (disj
        [isNull row.scorePolicyVersion,
         negate (oneOf row.scorePolicyVersion rankableScorePolicyVersions)],
       .unrankableScorePolicy),
     (negate (oneOf (some row.candidate.lifecycleStatus)
        (reviewableLifecycleStatuses.map IdeaLifecycleStatus.value)),
       .nonReviewableStatus)]

end ReviewQueueRow

/-- `load_review_queue_readiness_summary`. -/
def ReviewQueueTables.readinessSummary (tables : ReviewQueueTables)
    (audience : ReviewQueueAudience) (rankableScorePolicyVersions : List String)
    (evaluatedAtUtc : DateTime) (accessScopeFilter : Option QueueAccessScopeFilter) :
    Except PyError ReviewQueueCounts := do
  let versions ← normalizeRankableScorePolicyVersions rankableScorePolicyVersions
  let base := tables.base audience evaluatedAtUtc
  let classified := base.map fun row => row.exclusionReason evaluatedAtUtc versions accessScopeFilter
  return {
    candidateSnapshotCount := base.length
    reviewableItemCount := classified.countP fun reason => reason.isNone
    excludedCandidateCount := classified.countP fun reason => reason.isSome
    exclusionCounts := fun reason => classified.countP fun found => found = some reason
    scoredCandidateCount := base.countP fun row => isNotNull (row.part "score") = some true
    unscoredCandidateCount := base.countP fun row => isNull (row.part "score") = some true }

end LotusIdea

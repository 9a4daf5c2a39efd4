import LotusIdea.Domain.ReviewQueue
import LotusIdea.Foundation.OrderedRows
import LotusIdea.Repository.Records

/-!
# Reading the review queue in memory

`application/review_queue.py` over a snapshot: the records an audience sees at a
time, their snoozes, the queue they make and the counts of its readiness.
-/

set_option autoImplicit false

namespace LotusIdea

namespace CandidatePersistenceRecord

/-- When the material version of the candidate was first recorded. -/
def materialStartedAt (r : CandidatePersistenceRecord) : DateTime :=
  let recorded := (r.val.versionHistory.filter fun entry =>
    entry.val.materialVersion = r.val.candidate.val.identity.val.materialVersion).map
      fun entry => entry.val.recordedAtUtc
  (Sql.firstBy DateTime.instant recorded).getD r.val.candidate.val.createdAtUtc

/-- The last decision on the material version that was accepted by then. -/
def latestApplicableDecision (r : CandidatePersistenceRecord) (evaluatedAtUtc : DateTime) :
    Option GovernedReviewDecision :=
  Sql.lastBy (fun decision => toLex (decision.val.acceptedAtUtc.instant, decision.val.reviewId))
    (r.val.reviewDecisions.filter fun decision =>
      r.materialStartedAt ≤ decision.val.acceptedAtUtc ∧
        decision.val.acceptedAtUtc ≤ evaluatedAtUtc)

/-- What a decision says of the queue: a snooze that has not run out. -/
def snoozeOf (r : CandidatePersistenceRecord) (evaluatedAtUtc : DateTime)
    (latest : GovernedReviewDecision) : Option QueueSnooze :=
  if latest.val.action = .snooze then
    (latest.val.snoozedUntilUtc.filter fun snoozedUntilUtc =>
        evaluatedAtUtc < snoozedUntilUtc).map
      fun snoozedUntilUtc =>
        ⟨r.val.candidate.val.candidateId, snoozedUntilUtc, latest.val.reasonCodes⟩
  else none

def activeSnooze (r : CandidatePersistenceRecord) (evaluatedAtUtc : DateTime) :
    Option QueueSnooze :=
  (r.latestApplicableDecision evaluatedAtUtc).bind (r.snoozeOf evaluatedAtUtc)

/-- The record is among those the audience sees at the time. -/
def VisibleTo (r : CandidatePersistenceRecord) (audience : ReviewQueueAudience)
    (evaluatedAtUtc : DateTime) : Prop :=
  r.val.candidate.val.createdAtUtc ≤ evaluatedAtUtc ∧
    r.val.candidate.val.reviewPosture = audience.requiredPosture

instance (r : CandidatePersistenceRecord) (audience : ReviewQueueAudience)
    (evaluatedAtUtc : DateTime) : Decidable (r.VisibleTo audience evaluatedAtUtc) :=
  inferInstanceAs (Decidable (_ ∧ _))

end CandidatePersistenceRecord

/-- `visible_review_queue_candidate_records`, for an aware time. -/
def visibleReviewQueueCandidateRecords (records : List CandidatePersistenceRecord)
    (audience : ReviewQueueAudience) (evaluatedAtUtc : DateTime) :
    List CandidatePersistenceRecord :=
  records.filter fun record => record.VisibleTo audience evaluatedAtUtc

/-- `_active_snoozes`. -/
def activeSnoozes (records : List CandidatePersistenceRecord) (evaluatedAtUtc : DateTime) :
    List QueueSnooze :=
  records.filterMap fun record => record.activeSnooze evaluatedAtUtc

/-- `_build_review_queue_from_snapshot`, for a snapshot with these records. -/
def buildReviewQueueFromSnapshot (records : List CandidatePersistenceRecord)
    (audience : ReviewQueueAudience) (policy : ReviewQueuePolicy) (evaluatedAtUtc : DateTime)
    (accessScopeFilter : Option QueueAccessScopeFilter) :
    Except PyError ReviewQueueProjection := do
  validate [requireAware evaluatedAtUtc "evaluated_at_utc"]
  let visible := visibleReviewQueueCandidateRecords records audience evaluatedAtUtc
  buildReviewQueue (visible.map fun record => record.val.candidate) audience policy evaluatedAtUtc
    (activeSnoozes visible evaluatedAtUtc) accessScopeFilter

/-! ## Readiness -/

/-- The counts of a readiness snapshot. -/
@[ext]
structure ReviewQueueCounts where
  candidateSnapshotCount : Nat
  reviewableItemCount : Nat
  excludedCandidateCount : Nat
  exclusionCounts : QueueExclusionReason → Nat
  scoredCandidateCount : Nat
  unscoredCandidateCount : Nat

/-- The counts of `build_review_queue_readiness_snapshot`. -/
def reviewQueueCounts (records : List CandidatePersistenceRecord)
    (audience : ReviewQueueAudience) (policy : ReviewQueuePolicy) (evaluatedAtUtc : DateTime)
    (accessScopeFilter : Option QueueAccessScopeFilter) : Except PyError ReviewQueueCounts := do
  let queue ←
    buildReviewQueueFromSnapshot records audience policy evaluatedAtUtc accessScopeFilter
  let candidates := (visibleReviewQueueCandidateRecords records audience evaluatedAtUtc).map
    fun record => record.val.candidate
  return {
    candidateSnapshotCount := candidates.length
    reviewableItemCount := queue.items.length
    excludedCandidateCount := queue.exclusions.length
    exclusionCounts := fun reason =>
      queue.exclusions.countP fun exclusion => exclusion.reason = reason
    scoredCandidateCount := candidates.countP fun candidate => candidate.val.score.isSome
    unscoredCandidateCount := candidates.countP fun candidate => candidate.val.score.isNone }

/-! ## The queue of a snapshot -/

/-- What the queue of a snapshot with these records says of a candidate. -/
def snapshotExclusion (records : List CandidatePersistenceRecord) (audience : ReviewQueueAudience)
    (policy : ReviewQueuePolicy) (evaluatedAtUtc : DateTime)
    (accessScopeFilter : Option QueueAccessScopeFilter) (candidate : IdeaCandidate) :
    Option QueueExclusion :=
  let visible := visibleReviewQueueCandidateRecords records audience evaluatedAtUtc
  queueExclusionForCandidate candidate
    (activeSnoozeIndex (activeSnoozes visible evaluatedAtUtc) evaluatedAtUtc) accessScopeFilter
    policy evaluatedAtUtc

namespace CandidatePersistenceRecord

variable {r : CandidatePersistenceRecord} {evaluatedAtUtc : DateTime} {snooze : QueueSnooze}

theorem snoozeOf_eq_some {latest : GovernedReviewDecision} :
    r.snoozeOf evaluatedAtUtc latest = some snooze ↔
      latest.val.action = .snooze ∧ evaluatedAtUtc < snooze.snoozedUntilUtc ∧
        latest.val.snoozedUntilUtc = some snooze.snoozedUntilUtc ∧
        snooze.candidateId = r.val.candidate.val.candidateId ∧
        snooze.reasonCodes = latest.val.reasonCodes := by
  rw [snoozeOf]
  split
  · rename_i snoozes
    simp only [Option.map_eq_some_iff, Option.filter_eq_some_iff, decide_eq_true_eq]
    constructor
    · rintro ⟨_, ⟨until_, active⟩, rfl⟩
      exact ⟨snoozes, active, until_, rfl, rfl⟩
    · rintro ⟨_, active, until_, named, reasons⟩
      refine ⟨_, ⟨until_, active⟩, ?_⟩
      rw [← named, ← reasons]
  · rename_i other
    exact iff_of_false nofun fun facts => other facts.1

theorem activeSnooze_eq_some : r.activeSnooze evaluatedAtUtc = some snooze ↔
    ∃ latest, r.latestApplicableDecision evaluatedAtUtc = some latest ∧
      r.snoozeOf evaluatedAtUtc latest = some snooze :=
  Option.bind_eq_some_iff

end CandidatePersistenceRecord

section
variable {records : List CandidatePersistenceRecord} {audience : ReviewQueueAudience}
  {policy : ReviewQueuePolicy} {evaluatedAtUtc : DateTime}
  {accessScopeFilter : Option QueueAccessScopeFilter}

/-- No two records are of one candidate. -/
def CandidatesDistinct (records : List CandidatePersistenceRecord) : Prop :=
  (records.map fun record => record.val.candidate.val.candidateId).Nodup

instance (records : List CandidatePersistenceRecord) : Decidable (CandidatesDistinct records) :=
  inferInstanceAs (Decidable (List.Nodup _))

theorem CandidatesDistinct.visible (distinct : CandidatesDistinct records) :
    CandidatesDistinct (visibleReviewQueueCandidateRecords records audience evaluatedAtUtc) :=
  (List.filter_sublist.map _).nodup distinct

theorem mem_visible {r : CandidatePersistenceRecord} :
    r ∈ visibleReviewQueueCandidateRecords records audience evaluatedAtUtc ↔
      r ∈ records ∧ r.VisibleTo audience evaluatedAtUtc := by
  simp [visibleReviewQueueCandidateRecords]

theorem activeSnoozes_ids : ((activeSnoozes records evaluatedAtUtc).map QueueSnooze.candidateId).Sublist
    (records.map fun record => record.val.candidate.val.candidateId) := by
  induction records with
  | nil => exact List.Sublist.slnil
  | cons record rest ih =>
      simp only [activeSnoozes, List.filterMap_cons, List.map_cons] at ih ⊢
      cases active : record.activeSnooze evaluatedAtUtc with
      | none => exact ih.cons _
      | some snooze =>
          obtain ⟨latest, _, asks⟩ := CandidatePersistenceRecord.activeSnooze_eq_some.mp active
          obtain ⟨_, _, _, named, _⟩ := CandidatePersistenceRecord.snoozeOf_eq_some.mp asks
          rw [List.map_cons, named]
          exact ih.cons_cons _

/-- The index of the snoozes holds for each record the one it asks for. -/
theorem activeSnoozeIndex_get? (distinct : CandidatesDistinct records)
    {r : CandidatePersistenceRecord} (member : r ∈ records) :
    (activeSnoozeIndex (activeSnoozes records evaluatedAtUtc) evaluatedAtUtc).get?
      r.val.candidate.val.candidateId = r.activeSnooze evaluatedAtUtc := by
  have kept : (activeSnoozes records evaluatedAtUtc).filter
      (fun snooze => evaluatedAtUtc < snooze.snoozedUntilUtc) =
        activeSnoozes records evaluatedAtUtc := by
    rw [List.filter_eq_self]
    intro snooze listed
    obtain ⟨record, _, active⟩ := List.mem_filterMap.mp listed
    obtain ⟨latest, _, asks⟩ := CandidatePersistenceRecord.activeSnooze_eq_some.mp active
    exact decide_eq_true (CandidatePersistenceRecord.snoozeOf_eq_some.mp asks).2.1
  have named {record : CandidatePersistenceRecord} {snooze : QueueSnooze}
      (active : record.activeSnooze evaluatedAtUtc = some snooze) :
      snooze.candidateId = record.val.candidate.val.candidateId := by
    obtain ⟨latest, _, asks⟩ := CandidatePersistenceRecord.activeSnooze_eq_some.mp active
    exact (CandidatePersistenceRecord.snoozeOf_eq_some.mp asks).2.2.2.1
  rw [activeSnoozeIndex, kept]
  cases active : r.activeSnooze evaluatedAtUtc with
  | some snooze =>
      have listed : snooze ∈ activeSnoozes records evaluatedAtUtc :=
        List.mem_filterMap.mpr ⟨r, member, active⟩
      rw [← named active]
      exact Dict.get?_fill QueueSnooze.candidateId id (activeSnoozes_ids.nodup distinct) listed _
  | none =>
      refine Dict.get?_fill_of_not_mem QueueSnooze.candidateId id ?_ _
      intro found
      obtain ⟨snooze, listed, same⟩ := List.mem_map.mp found
      obtain ⟨other, other_member, other_active⟩ := List.mem_filterMap.mp listed
      have one : other = r := List.inj_on_of_nodup_map distinct other_member member
        ((named other_active).symm.trans same)
      rw [one, active] at other_active
      cases other_active

/-- The candidates the audience sees. -/
def visibleCandidates (records : List CandidatePersistenceRecord) (audience : ReviewQueueAudience)
    (evaluatedAtUtc : DateTime) : List IdeaCandidate :=
  (visibleReviewQueueCandidateRecords records audience evaluatedAtUtc).map
    fun record => record.val.candidate

/-- The candidates that the queue of a snapshot ranks. -/
def eligibleCandidates (records : List CandidatePersistenceRecord) (audience : ReviewQueueAudience)
    (policy : ReviewQueuePolicy) (evaluatedAtUtc : DateTime)
    (accessScopeFilter : Option QueueAccessScopeFilter) : List IdeaCandidate :=
  (visibleCandidates records audience evaluatedAtUtc).filter fun candidate =>
    (snapshotExclusion records audience policy evaluatedAtUtc accessScopeFilter candidate).isNone

theorem buildReviewQueueFromSnapshot_ok (aware : evaluatedAtUtc.isNaive = false) :
    buildReviewQueueFromSnapshot records audience policy evaluatedAtUtc accessScopeFilter =
      .ok
        { audience := audience
          policyVersion := policy.val.policyVersion
          evaluatedAtUtc := evaluatedAtUtc
          items :=
            (rankedCandidates (eligibleCandidates records audience policy evaluatedAtUtc
              accessScopeFilter)).mapIdx (rankedItem policy)
          exclusions :=
            (visibleCandidates records audience evaluatedAtUtc).filterMap
              (snapshotExclusion records audience policy evaluatedAtUtc accessScopeFilter) } := by
  have passes : validate [requireAware evaluatedAtUtc "evaluated_at_utc"] = .ok () := by
    simp [validate, requireAware, aware, firstFailure]
  have considered : (visibleCandidates records audience evaluatedAtUtc).filter
      (queueConsiders audience) = visibleCandidates records audience evaluatedAtUtc := by
    rw [List.filter_eq_self]
    intro candidate listed
    obtain ⟨record, seen, rfl⟩ := List.mem_map.mp listed
    simp [queueConsiders, (mem_visible.mp seen).2.2]
  rw [buildReviewQueueFromSnapshot, passes]
  change buildReviewQueue _ _ _ _ _ _ = _
  rw [buildReviewQueue, passes]
  change Except.ok _ = _
  rw [Except.ok.injEq, ReviewQueueProjection.mk.injEq]
  refine ⟨rfl, rfl, rfl, ?_, ?_⟩
  · rw [eligibleCandidates, ← considered]
    rfl
  · rw [← considered]
    rfl

end

end LotusIdea

import LotusIdea.Domain.ReviewGovernance
import LotusIdea.Foundation.OrderedDict

/-!
# The review queue

`review_queue/policy.py`: which candidates wait for an audience, why the others
do not, and in which order they are ranked.
-/

set_option autoImplicit false

namespace LotusIdea

inductive ReviewQueueAudience where
  | advisor
  | portfolioManager
  | compliance
  deriving DecidableEq, Repr

def ReviewQueueAudience.requiredPosture : ReviewQueueAudience → ReviewPosture
  | .advisor => .advisorReviewRequired
  | .portfolioManager => .pmReviewRequired
  | .compliance => .complianceReviewRequired

inductive QueueExclusionReason where
  | invalidState
  | suppressed
  | duplicate
  | expired
  | closed
  | rejected
  | unsupportedEvidence
  | snoozed
  | unscored
  | unrankableScorePolicy
  | nonReviewableStatus
  | accessScopeMismatch
  deriving DecidableEq, Repr

def QueueExclusionReason.value : QueueExclusionReason → String
  | .invalidState => "invalid_state"
  | .suppressed => "suppressed"
  | .duplicate => "duplicate"
  | .expired => "expired"
  | .closed => "closed"
  | .rejected => "rejected"
  | .unsupportedEvidence => "unsupported_evidence"
  | .snoozed => "snoozed"
  | .unscored => "unscored"
  | .unrankableScorePolicy => "unrankable_score_policy"
  | .nonReviewableStatus => "non_reviewable_status"
  | .accessScopeMismatch => "access_scope_mismatch"

/-! ## Policy -/

structure ReviewQueuePolicyFields where
  policyVersion : String
  rankableScorePolicyVersions : List String
  criticalThreshold : ℚ := 85
  highThreshold : ℚ := 70
  standardThreshold : ℚ := 50
  deriving DecidableEq

def ReviewQueuePolicyFields.checks (p : ReviewQueuePolicyFields) : List (Bool × PyError) :=
  [requireText p.policyVersion "policy_version",
   (p.rankableScorePolicyVersions.isEmpty,
     .valueError "rankable_score_policy_versions is required"),
   (p.rankableScorePolicyVersions.contains "",
     .valueError "rankable_score_policy_versions cannot contain blank values"),
   (!decide p.rankableScorePolicyVersions.Nodup,
     .valueError "rankable_score_policy_versions must be unique"),
   requireBoundedScore p.criticalThreshold "critical_threshold",
   requireBoundedScore p.highThreshold "high_threshold",
   requireBoundedScore p.standardThreshold "standard_threshold",
   (!decide (p.highThreshold ≤ p.criticalThreshold ∧ p.standardThreshold ≤ p.highThreshold ∧
       0 ≤ p.standardThreshold),
     .valueError "priority thresholds must be descending")]

/-- `tuple(sorted(version.strip() for version in versions))`. -/
def normalizedVersions (versions : List String) : List String :=
  (versions.map PyText.strip).insertionSort (· ≤ ·)

theorem mem_normalizedVersions {versions : List String} {version : String} :
    version ∈ normalizedVersions versions ↔ ∃ given ∈ versions, PyText.strip given = version := by
  simp [normalizedVersions]

/-- A policy, whose versions the constructor has stripped and sorted. -/
structure ReviewQueuePolicy extends Checked ReviewQueuePolicyFields.checks where
  stripped : ∀ version ∈ val.rankableScorePolicyVersions, PyText.strip version = version

namespace ReviewQueuePolicy

def create (p : ReviewQueuePolicyFields) : Except PyError ReviewQueuePolicy :=
  let versions := normalizedVersions p.rankableScorePolicyVersions
  match run : Checked.make ReviewQueuePolicyFields.checks
      { p with rankableScorePolicyVersions := versions } with
  | .error raised => .error raised
  | .ok made => .ok
      { toChecked := made
        stripped := by
          intro version member
          rw [Checked.make_eq_ok.mp run] at member
          obtain ⟨given, _, rfl⟩ := mem_normalizedVersions.mp member
          exact PyText.strip_strip given }

/-- `accepts_score_policy`. -/
def acceptsScorePolicy (p : ReviewQueuePolicy) (policyVersion : String) : Bool :=
  p.val.rankableScorePolicyVersions.contains policyVersion

/-- `priority_bucket_for_score`. -/
def priorityBucket (p : ReviewQueuePolicy) (score : ℚ) : QueuePriorityBucket :=
  if p.val.criticalThreshold ≤ score then .critical
  else if p.val.highThreshold ≤ score then .high
  else if p.val.standardThreshold ≤ score then .standard
  else .watchlist

end ReviewQueuePolicy

def defaultReviewQueuePolicy : ReviewQueuePolicy where
  val :=
    { policyVersion := defaultReviewQueuePolicyVersion
      rankableScorePolicyVersions := defaultRankableScorePolicyVersions }
  valid := by decide +kernel
  stripped := by decide +kernel

/-! ## Exclusions -/

/-- Built from a review decision, whose own checks imply those of this record. -/
structure QueueSnooze where
  candidateId : String
  snoozedUntilUtc : DateTime
  reasonCodes : List ReasonCode

structure QueueExclusion where
  candidateId : String
  reason : QueueExclusionReason
  detail : String
  deriving DecidableEq

def terminalReason : IdeaLifecycleStatus → Option QueueExclusionReason
  | .expired => some .expired
  | .closed => some .closed
  | .rejected => some .rejected
  | _ => none

/-- The dictionary of the snoozes that have not run out. -/
def activeSnoozeIndex (snoozes : List QueueSnooze) (evaluatedAtUtc : DateTime) :
    Dict String QueueSnooze :=
  (snoozes.filter fun snooze => evaluatedAtUtc < snooze.snoozedUntilUtc).foldl
    (fun index snooze => index.set snooze.candidateId snooze) Dict.empty

/-- The rules of `_queue_exclusion_for_candidate` in their order. -/
def queueExclusionRules (candidate : IdeaCandidate) (activeSnoozes : Dict String QueueSnooze)
    (accessScopeFilter : Option QueueAccessScopeFilter) (policy : ReviewQueuePolicy)
    (evaluatedAtUtc : DateTime) : List (Bool × QueueExclusionReason × String) :=
  let c := candidate.val
  let lifecycleDetail := "candidate lifecycle is " ++ c.lifecycleStatus.value
  [(accessScopeFilter.any fun filter => !filter.covers c.accessScope,
     .accessScopeMismatch, "candidate is outside the requested advisor access scope"),
   (!candidateStateIsCompatible c.lifecycleStatus c.reviewPosture,
     .invalidState, "candidate lifecycle and review posture are incompatible")] ++
  (c.evidencePacket.val.applicabilityExpiresAtUtc.elim [] fun expiry =>
    [(decide (expiry ≤ evaluatedAtUtc),
      .expired, "candidate applicability expired at " ++ expiry.isoformat)]) ++
  ((activeSnoozes.get? c.candidateId).elim [] fun snooze =>
    [(true, .snoozed, "snoozed until " ++ snooze.snoozedUntilUtc.isoformat)]) ++
  [(decide (c.suppressionReason = some .duplicate),
     .duplicate, "candidate is explicitly suppressed as duplicate adviser work"),
   (c.suppressionReason.isSome || c.reviewPosture = .suppressed,
     .suppressed, "candidate is suppressed")] ++
  ((terminalReason c.lifecycleStatus).elim [] fun reason => [(true, reason, lifecycleDetail)]) ++
  [(decide (c.evidencePacket.val.supportability = .blocked),
     .unsupportedEvidence, "candidate evidence is blocked"),
   (c.score.isNone, .unscored, "candidate has no score"),
   (!c.score.any fun score => policy.acceptsScorePolicy score.val.policyVersion,
     .unrankableScorePolicy,
     "candidate score policy is not rankable under the active queue policy"),
   (!reviewableLifecycleStatuses.contains c.lifecycleStatus,
     .nonReviewableStatus, lifecycleDetail)]

/-- `_queue_exclusion_for_candidate`. -/
def queueExclusionForCandidate (candidate : IdeaCandidate)
    (activeSnoozes : Dict String QueueSnooze) (accessScopeFilter : Option QueueAccessScopeFilter)
    (policy : ReviewQueuePolicy) (evaluatedAtUtc : DateTime) : Option QueueExclusion :=
  (firstFailure (queueExclusionRules candidate activeSnoozes accessScopeFilter policy
    evaluatedAtUtc)).map fun (reason, detail) => ⟨candidate.val.candidateId, reason, detail⟩

/-! ## The queue -/

/-- `_candidate_score`. -/
def candidateScore (candidate : IdeaCandidate) : ℚ :=
  candidate.val.score.elim 0 fun score => score.val.score

/-- `_queue_sort_key`. -/
def queueSortKey (candidate : IdeaCandidate) : ℚ ×ₗ ℤ ×ₗ String :=
  toLex (-candidateScore candidate,
    toLex (candidate.val.createdAtUtc.instant, candidate.val.candidateId))

/-- The checks of an item have passed on the score of its candidate. -/
structure ReviewQueueItem where
  rank : Nat
  candidate : IdeaCandidate
  score : ℚ
  priorityBucket : QueuePriorityBucket
  policyVersion : String
  reasonCodes : List ReasonCode

structure ReviewQueueProjection where
  audience : ReviewQueueAudience
  policyVersion : String
  evaluatedAtUtc : DateTime
  items : List ReviewQueueItem
  exclusions : List QueueExclusion

/-- The candidates that the loop of `build_review_queue` does not skip. -/
def queueConsiders (audience : ReviewQueueAudience) (candidate : IdeaCandidate) : Bool :=
  candidate.val.reviewPosture = audience.requiredPosture || candidate.val.suppressionReason.isSome

def rankedCandidates (candidates : List IdeaCandidate) : List IdeaCandidate :=
  candidates.insertionSort fun a b => queueSortKey a ≤ queueSortKey b

theorem mem_rankedCandidates {candidates : List IdeaCandidate} {candidate : IdeaCandidate} :
    candidate ∈ rankedCandidates candidates ↔ candidate ∈ candidates := by
  simp [rankedCandidates]

def rankedItem (policy : ReviewQueuePolicy) (index : Nat) (candidate : IdeaCandidate) :
    ReviewQueueItem where
  rank := index + 1
  candidate := candidate
  score := candidateScore candidate
  priorityBucket := policy.priorityBucket (candidateScore candidate)
  policyVersion := policy.val.policyVersion
  reasonCodes := candidate.val.score.elim [.queuePriority] fun score => score.val.reasonCodes

theorem rankedItems_candidates (policy : ReviewQueuePolicy) (ranked : List IdeaCandidate) :
    (ranked.mapIdx (rankedItem policy)).map ReviewQueueItem.candidate = ranked := by
  refine List.ext_getElem (by simp) ?_
  intro index _ _
  simp [rankedItem]

def buildReviewQueue (candidates : List IdeaCandidate) (audience : ReviewQueueAudience)
    (policy : ReviewQueuePolicy) (evaluatedAtUtc : DateTime) (snoozes : List QueueSnooze)
    (accessScopeFilter : Option QueueAccessScopeFilter) : Except PyError ReviewQueueProjection := do
  validate [requireAware evaluatedAtUtc "evaluated_at_utc"]
  let exclusion (candidate : IdeaCandidate) := queueExclusionForCandidate candidate
    (activeSnoozeIndex snoozes evaluatedAtUtc) accessScopeFilter policy evaluatedAtUtc
  let considered := candidates.filter (queueConsiders audience)
  return {
    audience := audience
    policyVersion := policy.val.policyVersion
    evaluatedAtUtc := evaluatedAtUtc
    items := (rankedCandidates (considered.filter fun c => (exclusion c).isNone)).mapIdx
      (rankedItem policy)
    exclusions := considered.filterMap exclusion }

/-! ## What the queue lists -/

section
variable {candidate : IdeaCandidate} {activeSnoozes : Dict String QueueSnooze}
  {accessScopeFilter : Option QueueAccessScopeFilter} {policy : ReviewQueuePolicy}
  {evaluatedAtUtc : DateTime}

/-- What holds of a candidate that no rule excludes. -/
structure QueueEligible (candidate : IdeaCandidate) (activeSnoozes : Dict String QueueSnooze)
    (accessScopeFilter : Option QueueAccessScopeFilter) (policy : ReviewQueuePolicy)
    (evaluatedAtUtc : DateTime) : Prop where
  inScope : (accessScopeFilter.any fun filter => !filter.covers candidate.val.accessScope) = false
  applicable : ∀ expiry ∈ candidate.val.evidencePacket.val.applicabilityExpiresAtUtc,
    evaluatedAtUtc < expiry
  awake : activeSnoozes.get? candidate.val.candidateId = none
  unsuppressed : candidate.val.suppressionReason = none ∧
    candidate.val.reviewPosture ≠ .suppressed
  supported : candidate.val.evidencePacket.val.supportability ≠ .blocked
  ranked : ∃ score, candidate.val.score = some score ∧
    policy.acceptsScorePolicy score.val.policyVersion = true
  reviewable : candidate.val.lifecycleStatus ∈ reviewableLifecycleStatuses

/-- A candidate is only built in a compatible state. -/
theorem IdeaCandidate.compatible (c : IdeaCandidate) :
    candidateStateIsCompatible c.val.lifecycleStatus c.val.reviewPosture = true := by
  have valid := c.valid
  simp only [IdeaCandidateFields.checks, firstFailure_cons, Bool.not_eq_false'] at valid
  exact valid.2.2.2.2.1

theorem terminalReason_of_reviewable {status : IdeaLifecycleStatus}
    (reviewable : status ∈ reviewableLifecycleStatuses) : terminalReason status = none := by
  cases status <;> first | rfl | (exact absurd reviewable (by decide))

theorem queueExclusionForCandidate_none :
    queueExclusionForCandidate candidate activeSnoozes accessScopeFilter policy evaluatedAtUtc =
      none ↔
    QueueEligible candidate activeSnoozes accessScopeFilter policy evaluatedAtUtc := by
  simp only [queueExclusionForCandidate, Option.map_eq_none_iff, queueExclusionRules,
    firstFailure_append, firstFailure_cons, firstFailure_nil, candidate.compatible, and_true,
    Bool.not_true]
  constructor
  · rintro ⟨⟨⟨⟨⟨inScope, expiry⟩, awake⟩, duplicate, suppressed⟩, terminal⟩, blocked, unscored,
      unrankable, status⟩
    refine ⟨inScope, ?_, ?_, ?_, ?_, ?_, ?_⟩
    · intro t member
      rw [Option.mem_def] at member
      rw [member] at expiry
      simpa [DateTime.le_def, DateTime.lt_def] using expiry
    · cases found : activeSnoozes.get? candidate.val.candidateId with
      | none => rfl
      | some snooze =>
          rw [found] at awake
          simp at awake
    · simpa using suppressed
    · simpa using blocked
    · exact (Option.any_eq_true _ _).mp (by simpa using unrankable)
    · simpa using status
  · rintro ⟨inScope, applicable, awake, ⟨reason, posture⟩, supported, ⟨score, scored, accepts⟩,
      reviewable⟩
    refine ⟨⟨⟨⟨⟨inScope, ?_⟩, ?_⟩, ?_, ?_⟩, ?_⟩, ?_, ?_, ?_, ?_⟩
    · cases expires : candidate.val.evidencePacket.val.applicabilityExpiresAtUtc with
      | none => rfl
      | some t =>
          have later := applicable t expires
          simpa [DateTime.le_def, DateTime.lt_def] using later
    · rw [awake]
      rfl
    · simp [reason]
    · simp [reason, posture]
    · rw [terminalReason_of_reviewable reviewable]
      rfl
    · simpa using supported
    · simp [scored]
    · simp [scored, accepts]
    · simpa using reviewable

end

/-- Every item of a queue stands for one of the candidates, which no rule excludes. -/
theorem buildReviewQueue_items {candidates : List IdeaCandidate} {audience : ReviewQueueAudience}
    {policy : ReviewQueuePolicy} {evaluatedAtUtc : DateTime} {snoozes : List QueueSnooze}
    {accessScopeFilter : Option QueueAccessScopeFilter} {queue : ReviewQueueProjection}
    (run : buildReviewQueue candidates audience policy evaluatedAtUtc snoozes accessScopeFilter =
      .ok queue) {item : ReviewQueueItem} (listed : item ∈ queue.items) :
    item.candidate ∈ candidates ∧ queueConsiders audience item.candidate = true ∧
      QueueEligible item.candidate (activeSnoozeIndex snoozes evaluatedAtUtc) accessScopeFilter
        policy evaluatedAtUtc := by
  simp only [buildReviewQueue] at run
  obtain ⟨_, _, run⟩ := Except.seq_returns.mp run
  cases run
  obtain ⟨index, inside, rfl⟩ := List.mem_mapIdx.mp listed
  obtain ⟨member, kept⟩ := List.mem_filter.mp (mem_rankedCandidates.mp (List.getElem_mem inside))
  obtain ⟨given, considered⟩ := List.mem_filter.mp member
  exact ⟨given, considered, queueExclusionForCandidate_none.mp (Option.isNone_iff_eq_none.mp kept)⟩

end LotusIdea

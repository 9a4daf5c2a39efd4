import LotusIdea.Domain.ReviewQueue
import LotusIdea.Foundation.OrderedRows
import LotusIdea.Foundation.Raising
import LotusIdea.Repository.RevokedAuthority

/-!
# The queue as a classification

`build_review_queue` sorts the candidates that it considers into items and
exclusions.  The items do not depend on the order in which the candidates come,
since the key of the ranking ends in the candidate's id; the exclusions come in the
order of their candidates.
-/

set_option autoImplicit false

namespace LotusIdea

/-! ## The constructors of a queue -/

/-- `ReviewQueueItem.__post_init__`, and `_require_score` of the priority bucket. -/
def ReviewQueueItem.checks (item : ReviewQueueItem) : List (Bool × PyError) :=
  [(decide (item.rank < 1), .valueError "rank must be greater than zero"),
   requireText item.policyVersion "policy_version", requireBoundedScore item.score "score",
   (item.reasonCodes.isEmpty, .valueError "reason_codes is required")]

def QueueExclusion.checks (e : QueueExclusion) : List (Bool × PyError) :=
  [requireText e.candidateId "candidate_id", requireText e.detail "detail"]

def ReviewQueueProjection.checks (q : ReviewQueueProjection) : List (Bool × PyError) :=
  [requireText q.policyVersion "policy_version",
   requireAware q.evaluatedAtUtc "evaluated_at_utc"]

theorem ReviewQueuePolicy.version_not_blank (policy : ReviewQueuePolicy) :
    PyText.isBlank policy.val.policyVersion = false := by
  have valid := policy.valid
  simp only [ReviewQueuePolicyFields.checks, firstFailure_cons, requireText_passes] at valid
  exact valid.1

theorem IdeaCandidate.id_not_blank (c : IdeaCandidate) :
    PyText.isBlank c.val.candidateId = false := by
  have valid := c.valid
  simp only [IdeaCandidateFields.checks, firstFailure_cons, requireText_passes] at valid
  exact valid.1

/-- The score of a candidate is bounded, and is told with its reasons. -/
theorem IdeaScore.bounded (s : IdeaScore) :
    0 ≤ s.val.score ∧ s.val.score ≤ 100 ∧ s.val.reasonCodes ≠ [] := by
  have valid := s.valid
  simp only [IdeaScoreFields.checks, requireBoundedScore, firstFailure_cons,
    decide_eq_false_iff_not, not_or, not_lt, List.isEmpty_eq_false_iff] at valid
  obtain ⟨_, ⟨low, high⟩, _, reasons, _⟩ := valid
  exact ⟨low, high, reasons⟩

theorem rankedItem_valid (policy : ReviewQueuePolicy) (index : Nat) (candidate : IdeaCandidate) :
    firstFailure (rankedItem policy index candidate).checks = none := by
  have version := policy.version_not_blank
  cases scored : candidate.val.score with
  | none =>
      simp [ReviewQueueItem.checks, rankedItem, candidateScore, scored, requireBoundedScore,
        version]
  | some score =>
      obtain ⟨low, high, reasons⟩ := IdeaScore.bounded score
      simp [ReviewQueueItem.checks, rankedItem, candidateScore, scored, requireBoundedScore,
        version, low, high, reasons]

/-- An exclusion names its candidate, and its detail is never blank. -/
theorem queueExclusionForCandidate_told {candidate : IdeaCandidate}
    {activeSnoozes : Dict String QueueSnooze} {accessScopeFilter : Option QueueAccessScopeFilter}
    {policy : ReviewQueuePolicy} {evaluatedAtUtc : DateTime} {exclusion : QueueExclusion}
    (excluded : queueExclusionForCandidate candidate activeSnoozes accessScopeFilter policy
      evaluatedAtUtc = some exclusion) :
    exclusion.candidateId = candidate.val.candidateId ∧
      firstFailure exclusion.checks = none := by
  obtain ⟨⟨reason, detail⟩, found, rfl⟩ := Option.map_eq_some_iff.mp excluded
  refine ⟨rfl, ?_⟩
  have visible : Harmless (fun told : QueueExclusionReason × String => PyText.isBlank told.2 = true)
      (queueExclusionRules candidate activeSnoozes accessScopeFilter policy evaluatedAtUtc) := by
    have lifecycle : PyText.isBlank
        ("candidate lifecycle is " ++ candidate.val.lifecycleStatus.value) = false :=
      PyText.isBlank_append_of_left _ (by decide)
    simp only [queueExclusionRules, harmless_append, harmless_cons, harmless_nil, lifecycle]
    refine ⟨⟨⟨⟨⟨?_, harmless_elim fun t => ?_⟩, harmless_elim fun snooze => ?_⟩, ?_⟩,
      harmless_elim fun reason => ?_⟩, ?_⟩
    · exact ⟨fun _ => by decide, fun _ => by decide, trivial⟩
    · simp [PyText.isBlank_append_of_left t.isoformat (s := "candidate applicability expired at ")
        (by decide)]
    · simp [PyText.isBlank_append_of_left snooze.snoozedUntilUtc.isoformat (s := "snoozed until ")
        (by decide)]
    · exact ⟨fun _ => by decide, fun _ => by decide, trivial⟩
    · simp [lifecycle]
    · exact ⟨fun _ => by decide, fun _ => by decide, fun _ => by decide, by simp⟩
  have told := firstFailure_harmless visible found
  simp only [Bool.not_eq_true] at told
  simp [QueueExclusion.checks, candidate.id_not_blank, told]

/-! ## The ranking -/

/-- The keys of candidates with distinct ids differ. -/
theorem queueSortKey_keyed {candidates : List IdeaCandidate}
    (distinct : (candidates.map fun c => c.val.candidateId).Nodup) :
    Sql.KeyedBy queueSortKey candidates := by
  intro a a_listed b b_listed same
  have ids : a.val.candidateId = b.val.candidateId := by
    have keys := congrArg (fun key => (ofLex (ofLex key).2).2) same
    exact keys
  exact List.inj_on_of_nodup_map distinct a_listed b_listed ids

theorem rankedCandidates_perm (candidates : List IdeaCandidate) :
    (rankedCandidates candidates).Perm candidates :=
  Sql.orderBy_perm queueSortKey candidates

theorem rankedCandidates_eq_of_perm {candidates other : List IdeaCandidate}
    (distinct : (candidates.map fun c => c.val.candidateId).Nodup)
    (perm : other.Perm candidates) : rankedCandidates other = rankedCandidates candidates := by
  symm
  exact Sql.orderBy_eq_of_perm (queueSortKey_keyed distinct)
    ((rankedCandidates_perm other).trans perm) (Sql.orderBy_sorted queueSortKey other)

theorem rankedCandidates_strict {candidates : List IdeaCandidate}
    (distinct : (candidates.map fun c => c.val.candidateId).Nodup) :
    (rankedCandidates candidates).Pairwise fun a b => queueSortKey a < queueSortKey b := by
  have below := Sql.orderBy_sorted queueSortKey candidates
  have ids : ((rankedCandidates candidates).map fun c => c.val.candidateId).Nodup :=
    ((rankedCandidates_perm candidates).map _).nodup_iff.mpr distinct
  have apart := List.pairwise_map.mp ids
  refine (below.and apart).imp ?_
  rintro a b ⟨ordered, differ⟩
  refine lt_of_le_of_ne ordered ?_
  intro same
  have keys := congrArg (fun key => (ofLex (ofLex key).2).2) same
  exact differ keys

def QueuePriorityBucket.urgency : QueuePriorityBucket → Nat
  | .critical => 3
  | .high => 2
  | .standard => 1
  | .watchlist => 0

theorem ReviewQueuePolicy.thresholds_descend (policy : ReviewQueuePolicy) :
    policy.val.highThreshold ≤ policy.val.criticalThreshold ∧
      policy.val.standardThreshold ≤ policy.val.highThreshold := by
  have valid := policy.valid
  simp only [ReviewQueuePolicyFields.checks, firstFailure_cons, Bool.not_eq_false',
    decide_eq_true_eq] at valid
  obtain ⟨_, _, _, _, _, _, _, ⟨high, standard, _⟩, _⟩ := valid
  exact ⟨high, standard⟩

/-- A higher score never falls into a lower bucket. -/
theorem ReviewQueuePolicy.priorityBucket_monotone (policy : ReviewQueuePolicy) {low high : ℚ}
    (below : low ≤ high) :
    (policy.priorityBucket low).urgency ≤ (policy.priorityBucket high).urgency := by
  obtain ⟨critical, standard⟩ := policy.thresholds_descend
  unfold priorityBucket
  split_ifs <;> first | (simp only [QueuePriorityBucket.urgency]; omega) | (exfalso; linarith)

/-! ## The classification -/

/-- What a function keeps of a list, and what it makes of the rest, are the list. -/
theorem filter_append_filterMap_perm {α β κ : Type} (f : α → Option β) (key : α → κ)
    (name : β → κ) (rows : List α) (named : ∀ a b, f a = some b → name b = key a) :
    ((rows.filter fun a => (f a).isNone).map key ++ (rows.filterMap f).map name).Perm
      (rows.map key) := by
  induction rows with
  | nil => exact List.Perm.refl _
  | cons a rest ih =>
      cases made : f a with
      | none => simpa [made] using ih
      | some b =>
          have told := named a b made
          simpa [made, told] using (List.perm_middle.trans (ih.cons (key a)))

/-- What a function makes of a list comes in the order of the list. -/
theorem filterMap_names_sublist {α β κ : Type} (f : α → Option β) (key : α → κ) (name : β → κ)
    (rows : List α) (named : ∀ a b, f a = some b → name b = key a) :
    ((rows.filterMap f).map name).Sublist (rows.map key) := by
  induction rows with
  | nil => exact List.Sublist.refl _
  | cons a rest ih =>
      cases made : f a with
      | none =>
          rw [List.filterMap_cons_none made]
          exact ih.cons (key a)
      | some b =>
          rw [List.filterMap_cons_some made, List.map_cons, named a b made]
          exact ih.cons_cons (key a)

/-- The queue accounts for every candidate that it considers, once. -/
structure QueueClassified (candidates : List IdeaCandidate) (audience : ReviewQueueAudience)
    (queue : ReviewQueueProjection) : Prop where
  built : firstFailure queue.checks = none ∧
    (∀ item ∈ queue.items, firstFailure item.checks = none) ∧
    ∀ exclusion ∈ queue.exclusions, firstFailure exclusion.checks = none
  accounted : (queue.items.map (fun item => item.candidate.val.candidateId) ++
    queue.exclusions.map QueueExclusion.candidateId).Perm
      ((candidates.filter (queueConsiders audience)).map fun c => c.val.candidateId)
  exactlyOne : ∀ candidate ∈ candidates, queueConsiders audience candidate = true →
    Xor (∃ item ∈ queue.items, item.candidate = candidate)
      (∃ exclusion ∈ queue.exclusions, exclusion.candidateId = candidate.val.candidateId)
  ranks : queue.items.map ReviewQueueItem.rank =
    (List.range queue.items.length).map fun index => index + 1
  ordered : (queue.items.map ReviewQueueItem.candidate).Pairwise fun a b =>
    queueSortKey a < queueSortKey b
  scored : ∀ item ∈ queue.items, item.score = candidateScore item.candidate
  monotone : ∀ a ∈ queue.items, ∀ b ∈ queue.items, a.score ≤ b.score →
    a.priorityBucket.urgency ≤ b.priorityBucket.urgency

/-- Two queues that differ at most in the order of their exclusions. -/
structure ReviewQueueProjection.SameListing (queue other : ReviewQueueProjection) : Prop where
  audience : queue.audience = other.audience
  policyVersion : queue.policyVersion = other.policyVersion
  evaluatedAtUtc : queue.evaluatedAtUtc = other.evaluatedAtUtc
  items : queue.items = other.items
  exclusions : queue.exclusions.Perm other.exclusions

/-- The queue that `build_review_queue` returns for an aware time. -/
def classifiedQueue (candidates : List IdeaCandidate) (audience : ReviewQueueAudience)
    (policy : ReviewQueuePolicy) (evaluatedAtUtc : DateTime)
    (exclusion : IdeaCandidate → Option QueueExclusion) : ReviewQueueProjection where
  audience := audience
  policyVersion := policy.val.policyVersion
  evaluatedAtUtc := evaluatedAtUtc
  items := (rankedCandidates ((candidates.filter (queueConsiders audience)).filter
    fun c => (exclusion c).isNone)).mapIdx (rankedItem policy)
  exclusions := (candidates.filter (queueConsiders audience)).filterMap exclusion

section
variable {candidates : List IdeaCandidate} {audience : ReviewQueueAudience}
  {policy : ReviewQueuePolicy} {evaluatedAtUtc : DateTime} {snoozes : List QueueSnooze}
  {accessScopeFilter : Option QueueAccessScopeFilter}

theorem buildReviewQueue_of_naive (naive : evaluatedAtUtc.isNaive = true) :
    buildReviewQueue candidates audience policy evaluatedAtUtc snoozes accessScopeFilter =
      .error (.valueError "evaluated_at_utc must be timezone-aware") := by
  simp only [buildReviewQueue, validate, requireAware, firstFailure, naive]
  rfl

theorem buildReviewQueue_of_aware (aware : evaluatedAtUtc.isNaive = false) :
    buildReviewQueue candidates audience policy evaluatedAtUtc snoozes accessScopeFilter =
      .ok (classifiedQueue candidates audience policy evaluatedAtUtc fun candidate =>
        queueExclusionForCandidate candidate (activeSnoozeIndex snoozes evaluatedAtUtc)
          accessScopeFilter policy evaluatedAtUtc) := by
  simp only [buildReviewQueue, validate, requireAware, firstFailure, aware]
  rfl

variable {exclusion : IdeaCandidate → Option QueueExclusion}

theorem classifiedQueue_candidates :
    (classifiedQueue candidates audience policy evaluatedAtUtc exclusion).items.map
        ReviewQueueItem.candidate =
      rankedCandidates ((candidates.filter (queueConsiders audience)).filter
        fun c => (exclusion c).isNone) :=
  rankedItems_candidates policy _

/-- An item is the ranked item of its candidate. -/
theorem classifiedQueue_item {item : ReviewQueueItem}
    (listed : item ∈ (classifiedQueue candidates audience policy evaluatedAtUtc exclusion).items) :
    ∃ index candidate, item = rankedItem policy index candidate := by
  obtain ⟨index, _, rfl⟩ := List.mem_mapIdx.mp listed
  exact ⟨index, _, rfl⟩

theorem classifiedQueue_ids :
    (classifiedQueue candidates audience policy evaluatedAtUtc exclusion).items.map
        (fun item => item.candidate.val.candidateId) =
      (rankedCandidates ((candidates.filter (queueConsiders audience)).filter
        fun c => (exclusion c).isNone)).map fun c => c.val.candidateId := by
  have candidates_eq : (classifiedQueue candidates audience policy evaluatedAtUtc
      exclusion).items.map ReviewQueueItem.candidate = _ := classifiedQueue_candidates
  rw [← candidates_eq, List.map_map]
  rfl

theorem classifiedQueue_accounted
    (named : ∀ c e, exclusion c = some e → e.candidateId = c.val.candidateId) :
    let queue := classifiedQueue candidates audience policy evaluatedAtUtc exclusion
    (queue.items.map (fun item => item.candidate.val.candidateId) ++
      queue.exclusions.map QueueExclusion.candidateId).Perm
        ((candidates.filter (queueConsiders audience)).map fun c => c.val.candidateId) := by
  intro queue
  have kept := filter_append_filterMap_perm exclusion (fun c => c.val.candidateId)
    QueueExclusion.candidateId (candidates.filter (queueConsiders audience)) named
  have ranked := (rankedCandidates_perm ((candidates.filter (queueConsiders audience)).filter
    fun c => (exclusion c).isNone)).map fun c => c.val.candidateId
  have ids : (queue.items.map fun item => item.candidate.val.candidateId) = _ :=
    classifiedQueue_ids
  rw [ids]
  exact (ranked.append_right _).trans kept

/-- A candidate that is considered is ranked when no rule excludes it, and is
excluded otherwise. -/
theorem classifiedQueue_exactlyOne
    (distinct : (candidates.map fun c => c.val.candidateId).Nodup)
    (named : ∀ c e, exclusion c = some e → e.candidateId = c.val.candidateId)
    {candidate : IdeaCandidate} (given : candidate ∈ candidates)
    (considered : queueConsiders audience candidate = true) :
    let queue := classifiedQueue candidates audience policy evaluatedAtUtc exclusion
    Xor (∃ item ∈ queue.items, item.candidate = candidate)
      (∃ e ∈ queue.exclusions, e.candidateId = candidate.val.candidateId) := by
  intro queue
  have ranked : (∃ item ∈ queue.items, item.candidate = candidate) ↔ exclusion candidate = none := by
    rw [← List.mem_map, classifiedQueue_candidates, mem_rankedCandidates]
    simp [given, considered]
  have excluded : (∃ e ∈ queue.exclusions, e.candidateId = candidate.val.candidateId) ↔
      exclusion candidate ≠ none := by
    constructor
    · rintro ⟨e, listed, same⟩
      obtain ⟨other, other_considered, made⟩ := List.mem_filterMap.mp listed
      have other_given := (List.mem_filter.mp other_considered).1
      have ids := (named other e made).symm.trans same
      rw [← List.inj_on_of_nodup_map distinct other_given given ids, made]
      simp
    · intro made
      obtain ⟨e, made⟩ := Option.ne_none_iff_exists'.mp made
      have listed : candidate ∈ candidates.filter (queueConsiders audience) :=
        List.mem_filter.mpr ⟨given, considered⟩
      exact ⟨e, List.mem_filterMap.mpr ⟨candidate, listed, made⟩, named candidate e made⟩
  rw [ranked, excluded]
  by_cases none : exclusion candidate = none
  · exact Or.inl ⟨none, not_not.mpr none⟩
  · exact Or.inr ⟨none, none⟩

theorem classifiedQueue_ranks :
    let queue := classifiedQueue candidates audience policy evaluatedAtUtc exclusion
    queue.items.map ReviewQueueItem.rank =
      (List.range queue.items.length).map fun index => index + 1 := by
  intro queue
  refine List.ext_getElem (by simp) ?_
  intro index _ _
  simp [queue, classifiedQueue, rankedItem]

theorem classifiedQueue_classified
    (distinct : (candidates.map fun c => c.val.candidateId).Nodup)
    (aware : evaluatedAtUtc.isNaive = false)
    (told : ∀ c e, exclusion c = some e →
      e.candidateId = c.val.candidateId ∧ firstFailure e.checks = none) :
    QueueClassified candidates audience
      (classifiedQueue candidates audience policy evaluatedAtUtc exclusion) where
  built := by
    refine ⟨?_, ?_, ?_⟩
    · simp [ReviewQueueProjection.checks, classifiedQueue, policy.version_not_blank, requireAware,
        firstFailure_cons, aware]
    · intro item listed
      obtain ⟨index, candidate, rfl⟩ := classifiedQueue_item listed
      exact rankedItem_valid policy index candidate
    · intro e listed
      obtain ⟨candidate, _, made⟩ := List.mem_filterMap.mp listed
      exact (told candidate e made).2
  accounted := classifiedQueue_accounted fun c e made => (told c e made).1
  exactlyOne := fun _ given considered =>
    classifiedQueue_exactlyOne distinct (fun c e made => (told c e made).1) given considered
  ranks := classifiedQueue_ranks
  ordered := by
    rw [classifiedQueue_candidates]
    refine rankedCandidates_strict ?_
    exact distinct.sublist ((List.filter_sublist.trans List.filter_sublist).map _)
  scored := by
    intro item listed
    obtain ⟨index, candidate, rfl⟩ := classifiedQueue_item listed
    rfl
  monotone := by
    intro a a_listed b b_listed below
    obtain ⟨_, _, rfl⟩ := classifiedQueue_item a_listed
    obtain ⟨_, _, rfl⟩ := classifiedQueue_item b_listed
    exact policy.priorityBucket_monotone below

/-- The items of the queue do not depend on the order of the candidates, and its
exclusions only in their order. -/
theorem classifiedQueue_sameListing {other : List IdeaCandidate}
    (distinct : (candidates.map fun c => c.val.candidateId).Nodup) (perm : other.Perm candidates) :
    (classifiedQueue other audience policy evaluatedAtUtc exclusion).SameListing
      (classifiedQueue candidates audience policy evaluatedAtUtc exclusion) where
  audience := rfl
  policyVersion := rfl
  evaluatedAtUtc := rfl
  items := by
    have considered := perm.filter (queueConsiders audience)
    have kept := considered.filter fun c => (exclusion c).isNone
    have keptDistinct := distinct.sublist
      ((List.filter_sublist (p := fun c => (exclusion c).isNone).trans
        (List.filter_sublist (p := queueConsiders audience))).map _)
    simp only [classifiedQueue, rankedCandidates_eq_of_perm keptDistinct kept]
  exclusions := (perm.filter (queueConsiders audience)).filterMap exclusion

/-- The exclusions come in the order of their candidates. -/
theorem classifiedQueue_exclusions_sublist
    (named : ∀ c e, exclusion c = some e → e.candidateId = c.val.candidateId) :
    ((classifiedQueue candidates audience policy evaluatedAtUtc exclusion).exclusions.map
      QueueExclusion.candidateId).Sublist (candidates.map fun c => c.val.candidateId) := by
  have considered : (candidates.filter (queueConsiders audience)).Sublist candidates :=
    List.filter_sublist
  exact (filterMap_names_sublist exclusion (fun c => c.val.candidateId)
    QueueExclusion.candidateId _ named).trans (considered.map _)

/-- An evaluation time without a zone is refused.  Otherwise every order of the
candidates gives a queue that classifies them, with the same ranked items and the
same exclusions up to their order, which is that of the candidates. -/
theorem buildReviewQueue_classifies
    (distinct : (candidates.map fun c => c.val.candidateId).Nodup) :
    (evaluatedAtUtc.isNaive = true → ∀ other : List IdeaCandidate, other.Perm candidates →
      buildReviewQueue other audience policy evaluatedAtUtc snoozes accessScopeFilter =
        .error (.valueError "evaluated_at_utc must be timezone-aware")) ∧
    (evaluatedAtUtc.isNaive = false → ∃ queue,
      buildReviewQueue candidates audience policy evaluatedAtUtc snoozes accessScopeFilter =
        .ok queue ∧
      ∀ other : List IdeaCandidate, other.Perm candidates → ∃ reordered,
        buildReviewQueue other audience policy evaluatedAtUtc snoozes accessScopeFilter =
          .ok reordered ∧
        QueueClassified other audience reordered ∧ reordered.SameListing queue ∧
        (reordered.exclusions.map QueueExclusion.candidateId).Sublist
          (other.map fun c => c.val.candidateId)) := by
  constructor
  · intro naive other _
    exact buildReviewQueue_of_naive naive
  · intro aware
    refine ⟨_, buildReviewQueue_of_aware aware, ?_⟩
    intro other perm
    have otherDistinct : (other.map fun c => c.val.candidateId).Nodup :=
      (perm.map _).nodup_iff.mpr distinct
    refine ⟨_, buildReviewQueue_of_aware aware, ?_, classifiedQueue_sameListing distinct perm, ?_⟩
    · exact classifiedQueue_classified otherDistinct aware fun _ _ made =>
        queueExclusionForCandidate_told made
    · exact classifiedQueue_exclusions_sublist fun _ _ made =>
        (queueExclusionForCandidate_told made).1

end

/-! ## Two candidates without a score -/

def sampleSecondCandidate : IdeaCandidate where
  val := { (sampleCandidate false).val with candidateId := "idea-2" }
  valid := by decide +kernel

theorem buildReviewQueue_classifies_sample :
    ∃ queue, buildReviewQueue [sampleCandidate false, sampleSecondCandidate] .advisor
        defaultReviewQueuePolicy (.utc 0) [] none = .ok queue ∧
      ∃ reordered, buildReviewQueue [sampleSecondCandidate, sampleCandidate false] .advisor
        defaultReviewQueuePolicy (.utc 0) [] none = .ok reordered ∧
        reordered.SameListing queue := by
  have distinct : ([sampleCandidate false, sampleSecondCandidate].map
      fun c => c.val.candidateId).Nodup := by decide +kernel
  have aware : (DateTime.utc 0).isNaive = false := rfl
  obtain ⟨queue, built, orders⟩ := (buildReviewQueue_classifies distinct).2 aware
  obtain ⟨reordered, rebuilt, _, same, _⟩ := orders _ (List.Perm.swap _ _ _)
  exact ⟨queue, built, reordered, rebuilt, same⟩

/-- The exclusions of a queue follow the order in which the candidates come. -/
theorem exclusions_follow_candidates :
    ([sampleSecondCandidate, sampleCandidate false].Perm
      [sampleCandidate false, sampleSecondCandidate]) ∧
    ([sampleCandidate false, sampleSecondCandidate].map fun c => c.val.candidateId).Nodup ∧
    buildReviewQueue [sampleCandidate false, sampleSecondCandidate] .advisor
        defaultReviewQueuePolicy (.utc 0) [] none ≠
      buildReviewQueue [sampleSecondCandidate, sampleCandidate false] .advisor
        defaultReviewQueuePolicy (.utc 0) [] none := by
  refine ⟨List.Perm.swap _ _ _, by decide +kernel, ?_⟩
  intro same
  have told := congrArg
    (fun run => run.toOption.map fun queue => queue.exclusions.map QueueExclusion.candidateId) same
  revert told
  decide +kernel

end LotusIdea

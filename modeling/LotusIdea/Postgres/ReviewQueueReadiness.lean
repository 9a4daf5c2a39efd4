import LotusIdea.Postgres.ReviewQueuePages

/-!
# Readiness counts against the queue in memory

Of a candidate with a score, the `CASE` of the readiness query says what the rules
of the queue say.  The counts are those of the queue in memory exactly when every
candidate it sees has a score and no suppressed candidate stands outside.
-/

set_option autoImplicit false

namespace LotusIdea

open Json Sql

/-! ## The rules by their reasons -/

/-- The rules of the queue for the candidate of a record, one for each reason they
can give. -/
def CandidatePersistenceRecord.exclusionRules (r : CandidatePersistenceRecord)
    (accessScopeFilter : Option QueueAccessScopeFilter) (policy : ReviewQueuePolicy)
    (evaluatedAtUtc : DateTime) : List (Bool × QueueExclusionReason) :=
  let c := r.val.candidate.val
  [(accessScopeFilter.any fun filter => !filter.covers c.accessScope, .accessScopeMismatch),
   (!candidateStateIsCompatible c.lifecycleStatus c.reviewPosture, .invalidState)] ++
  [(c.evidencePacket.val.applicabilityExpiresAtUtc.any fun expiry =>
      decide (expiry ≤ evaluatedAtUtc), .expired)] ++
  [((r.activeSnooze evaluatedAtUtc).isSome, .snoozed)] ++
  [(decide (c.suppressionReason = some .duplicate), .duplicate),
   (c.suppressionReason.isSome || c.reviewPosture = .suppressed, .suppressed)] ++
  [(decide (c.lifecycleStatus = .expired), .expired),
   (decide (c.lifecycleStatus = .closed), .closed),
   (decide (c.lifecycleStatus = .rejected), .rejected)] ++
  [(decide (c.evidencePacket.val.supportability = .blocked), .unsupportedEvidence),
   (c.score.isNone, .unscored),
   (!c.score.any fun score => policy.acceptsScorePolicy score.val.policyVersion,
     .unrankableScorePolicy),
   (!reviewableLifecycleStatuses.contains c.lifecycleStatus, .nonReviewableStatus)]

section
variable {r : CandidatePersistenceRecord} {evaluatedAtUtc : DateTime} {policy : ReviewQueuePolicy}
  {accessScopeFilter : Option QueueAccessScopeFilter}

theorem queueExclusion_reason {snoozes : Dict String QueueSnooze}
    (indexed : snoozes.get? r.val.candidate.val.candidateId = r.activeSnooze evaluatedAtUtc) :
    (queueExclusionForCandidate r.val.candidate snoozes accessScopeFilter policy
        evaluatedAtUtc).map QueueExclusion.reason =
      firstFailure (r.exclusionRules accessScopeFilter policy evaluatedAtUtc) := by
  have expired : firstFailure ((r.val.candidate.val.evidencePacket.val.applicabilityExpiresAtUtc.elim
      [] fun expiry => [(decide (expiry ≤ evaluatedAtUtc), QueueExclusionReason.expired,
        "candidate applicability expired at " ++ expiry.isoformat)]).map
          fun rule => (rule.1, rule.2.1)) =
      firstFailure [(r.val.candidate.val.evidencePacket.val.applicabilityExpiresAtUtc.any
        fun expiry => decide (expiry ≤ evaluatedAtUtc), QueueExclusionReason.expired)] := by
    cases r.val.candidate.val.evidencePacket.val.applicabilityExpiresAtUtc <;> rfl
  have snoozed : firstFailure ((snoozes.get? r.val.candidate.val.candidateId).elim []
      (fun snooze => [(true, QueueExclusionReason.snoozed,
        "snoozed until " ++ snooze.snoozedUntilUtc.isoformat)]) |>.map
          fun rule => (rule.1, rule.2.1)) =
      firstFailure [((r.activeSnooze evaluatedAtUtc).isSome, QueueExclusionReason.snoozed)] := by
    rw [indexed]
    cases r.activeSnooze evaluatedAtUtc <;> rfl
  have terminal : firstFailure (((terminalReason r.val.candidate.val.lifecycleStatus).elim []
      fun reason => [(true, reason, "candidate lifecycle is " ++
        r.val.candidate.val.lifecycleStatus.value)]).map fun rule => (rule.1, rule.2.1)) =
      firstFailure
        [(decide (r.val.candidate.val.lifecycleStatus = .expired), QueueExclusionReason.expired),
         (decide (r.val.candidate.val.lifecycleStatus = .closed), .closed),
         (decide (r.val.candidate.val.lifecycleStatus = .rejected), .rejected)] := by
    cases r.val.candidate.val.lifecycleStatus <;> rfl
  rw [queueExclusionForCandidate, Option.map_map]
  change Option.map Prod.fst _ = _
  rw [← firstFailure_map, queueExclusionRules, CandidatePersistenceRecord.exclusionRules]
  simp only [List.map_append, firstFailure_or, expired, snoozed, terminal]
  rfl

end

/-! ## The branches of the query -/

section
variable [Sha256] {r : CandidatePersistenceRecord} {evaluatedAtUtc : DateTime}
  {policy : ReviewQueuePolicy} {accessScopeFilter : Option QueueAccessScopeFilter}

theorem queueRow_accessScopeMismatch :
    (r.queueRow evaluatedAtUtc).accessScopeMismatch accessScopeFilter = some true ↔
      (accessScopeFilter.any fun filter => !filter.covers r.val.candidate.val.accessScope) =
        true := by
  cases accessScopeFilter with
  | none => simp [ReviewQueueRow.accessScopeMismatch]
  | some f =>
      have outside : (¬ ∀ field ∈ f.fields, oneOf
          (arrowText ((r.queueRow evaluatedAtUtc).part "access_scope") field.1) field.2 =
            some true) ↔ ¬ f.covers r.val.candidate.val.accessScope = true :=
        not_congr (queueRow_scopeCovered f)
      have refused (stored : Option String) (values : List String) :
          (isNull stored = some true ∨ negate (oneOf stored values) = some true) ↔
            ¬ oneOf stored values = some true := by
        cases stored with
        | none => simp [isNull]
        | some text => simp [isNull]
      have present : isNull ((r.queueRow evaluatedAtUtc).part "access_scope") ≠ some true := by
        rw [queueRow_accessScope]
        simp [isNull]
      simp only [Option.any_some, Bool.not_eq_true', ← Bool.not_eq_true, ← outside, not_forall,
        exists_prop, ← refused]
      rw [ReviewQueueRow.accessScopeMismatch]
      split
      · rename_i empty
        simp [fields_empty.mpr empty]
      · rw [disj_cons_true, or_iff_right present]
        simp only [disj_true, List.mem_flatMap, List.mem_cons, List.not_mem_nil, or_false]
        constructor
        · rintro ⟨_, ⟨field, listed, rfl | rfl⟩, holds⟩
          · exact ⟨field, listed, .inl holds⟩
          · exact ⟨field, listed, .inr holds⟩
        · rintro ⟨field, listed, holds | holds⟩
          · exact ⟨_, ⟨field, listed, .inl rfl⟩, holds⟩
          · exact ⟨_, ⟨field, listed, .inr rfl⟩, holds⟩

theorem queueRow_exclusionReason (representable : r.val.candidate.Representable)
    (decisions : ∀ d ∈ r.val.reviewDecisions, d.Representable) {versions : List String}
    (rankable : ∀ version, version ∈ versions ↔ policy.acceptsScorePolicy version = true)
    (scored : r.val.candidate.val.score.isSome = true) :
    (r.queueRow evaluatedAtUtc).exclusionReason evaluatedAtUtc versions accessScopeFilter =
      firstFailure (r.exclusionRules accessScopeFilter policy evaluatedAtUtc) := by
  have mismatch : decide ((r.queueRow evaluatedAtUtc).accessScopeMismatch accessScopeFilter =
      some true) =
      accessScopeFilter.any fun filter => !filter.covers r.val.candidate.val.accessScope := by
    rw [Bool.eq_iff_iff, decide_eq_true_eq, queueRow_accessScopeMismatch]
  have incompatible : decide (negate (r.queueRow evaluatedAtUtc).stateCompatible = some true) =
      !candidateStateIsCompatible r.val.candidate.val.lifecycleStatus
        r.val.candidate.val.reviewPosture := by
    rw [queueRow_stateCompatible, r.val.candidate.compatible]
    rfl
  have expired : decide (coalesce [notAfter (r.queueRow evaluatedAtUtc).applicabilityExpiresAtUtc
      (some evaluatedAtUtc), some false] = some true) =
      r.val.candidate.val.evidencePacket.val.applicabilityExpiresAtUtc.any
        fun expiry => decide (expiry ≤ evaluatedAtUtc) := by
    rw [queueRow_applicabilityExpiresAtUtc representable]
    cases r.val.candidate.val.evidencePacket.val.applicabilityExpiresAtUtc with
    | none => rfl
    | some expiry => simp [DateTime.le_def]
  have snoozed : decide ((r.queueRow evaluatedAtUtc).snoozed evaluatedAtUtc = some true) =
      (r.activeSnooze evaluatedAtUtc).isSome := by
    rw [Bool.eq_iff_iff, decide_eq_true_eq, queueRow_snoozed decisions]
  have duplicate : decide (equal ((r.queueRow evaluatedAtUtc).candidate.text "suppression_reason")
      (some SuppressionReason.duplicate.value) = some true) =
      decide (r.val.candidate.val.suppressionReason = some .duplicate) := by
    rw [CandidatePersistenceRecord.queueRow, row_suppressionReason, decide_eq_decide]
    cases r.val.candidate.val.suppressionReason with
    | none => simp
    | some reason => exact (equal_value reason .duplicate).trans (Option.some_inj).symm
  have suppressed : decide (disj
      [equal (some (r.queueRow evaluatedAtUtc).candidate.reviewPosture)
        (some ReviewPosture.suppressed.value),
       isNotNull ((r.queueRow evaluatedAtUtc).candidate.text "suppression_reason")] = some true) =
      (r.val.candidate.val.suppressionReason.isSome ||
        decide (r.val.candidate.val.reviewPosture = .suppressed)) := by
    have posture := equal_value r.val.candidate.val.reviewPosture .suppressed
    have reason : isNotNull (r.write.row.text "suppression_reason") = some true ↔
        r.val.candidate.val.suppressionReason.isSome = true := by
      simp [row_suppressionReason, isNotNull]
    rw [Bool.eq_iff_iff, decide_eq_true_eq, disj_cons_true, disj_cons_true, disj_nil,
      Bool.or_eq_true, decide_eq_true_eq, ← posture, ← reason]
    simp only [Option.some.injEq, Bool.false_eq_true, or_false]
    exact or_comm
  have status (wanted : IdeaLifecycleStatus) :
      decide (equal (some (r.queueRow evaluatedAtUtc).candidate.lifecycleStatus)
        (some wanted.value) = some true) =
      decide (r.val.candidate.val.lifecycleStatus = wanted) :=
    decide_eq_decide.mpr (equal_value r.val.candidate.val.lifecycleStatus wanted)
  have unsupported : decide (equal (r.queueRow evaluatedAtUtc).supportability
      (some EvidenceSupportability.blocked.value) = some true) =
      decide (r.val.candidate.val.evidencePacket.val.supportability = .blocked) := by
    rw [queueRow_supportability, decide_eq_decide]
    exact equal_value r.val.candidate.val.evidencePacket.val.supportability .blocked
  obtain ⟨score, scored⟩ := Option.isSome_iff_exists.mp scored
  have unscored : decide (isNull ((r.queueRow evaluatedAtUtc).part "score") = some true) =
      r.val.candidate.val.score.isNone := by
    rw [queueRow_score, scored]
    rfl
  have unrankable : decide (disj
      [isNull (r.queueRow evaluatedAtUtc).scorePolicyVersion,
       negate (oneOf (r.queueRow evaluatedAtUtc).scorePolicyVersion versions)] = some true) =
      !r.val.candidate.val.score.any fun score =>
        policy.acceptsScorePolicy score.val.policyVersion := by
    rw [queueRow_scorePolicyVersion, scored, Bool.eq_iff_iff, decide_eq_true_eq]
    simp [isNull, rankable]
  have nonReviewable : decide (negate (oneOf
      (some (r.queueRow evaluatedAtUtc).candidate.lifecycleStatus)
        (reviewableLifecycleStatuses.map IdeaLifecycleStatus.value)) = some true) =
      !reviewableLifecycleStatuses.contains r.val.candidate.val.lifecycleStatus := by
    rw [Bool.eq_iff_iff, decide_eq_true_eq, negate_not_true _ rfl, Bool.not_eq_true',
      ← Bool.not_eq_true, List.contains_iff_mem]
    exact not_congr (oneOf_values r.val.candidate.val.lifecycleStatus _)
  rw [ReviewQueueRow.exclusionReason, caseWhen_eq_firstFailure]
  simp only [List.map_cons, List.map_nil, mismatch, incompatible, expired, snoozed, duplicate,
    suppressed, status, unsupported, unscored, unrankable, nonReviewable]
  rfl

end

/-! ## The counts -/

instance : PyEnum QueueExclusionReason where
  value := QueueExclusionReason.value
  members := (List.range 12).map QueueExclusionReason.ofNat
  complete a := by cases a <;> decide
  distinct := by decide +kernel

/-- Each value found is counted under one member. -/
theorem sum_countP_members {α : Type} [PyEnum α] [DecidableEq α] (found : List (Option α)) :
    ((PyEnum.members (α := α)).map fun member =>
        found.countP fun value => decide (value = some member)).sum =
      found.countP fun value => value.isSome := by
  have distinct : (PyEnum.members (α := α)).Nodup := PyEnum.distinct.of_map
  have one (a : α) (members : List α) :
      (members.map fun member => if decide (some a = some member) then 1 else 0).sum =
        members.count a := by
    induction members with
    | nil => rfl
    | cons member rest ih =>
        rw [List.map_cons, List.sum_cons, ih, List.count_cons]
        simp only [Option.some.injEq, decide_eq_true_eq, beq_iff_eq, eq_comm (a := a)]
        omega
  induction found with
  | nil => simp
  | cons value rest ih =>
      simp only [List.countP_cons, List.sum_map_add, ih]
      cases value with
      | none => simp
      | some a => rw [one, List.count_eq_one_of_mem distinct (PyEnum.complete a)]; rfl

/-- The total is the eligible candidates and those excluded for each reason. -/
def ReviewQueueCounts.Balanced (counts : ReviewQueueCounts) : Prop :=
  counts.candidateSnapshotCount = counts.reviewableItemCount + counts.excludedCandidateCount ∧
    counts.excludedCandidateCount =
      ((PyEnum.members (α := QueueExclusionReason)).map counts.exclusionCounts).sum

/-- The counts of candidates that have been classified. -/
def classifiedCounts (classified : List (Option QueueExclusionReason)) (scored unscored : Nat) :
    ReviewQueueCounts where
  candidateSnapshotCount := classified.length
  reviewableItemCount := classified.countP fun reason => reason.isNone
  excludedCandidateCount := classified.countP fun reason => reason.isSome
  exclusionCounts := fun reason => classified.countP fun found => found = some reason
  scoredCandidateCount := scored
  unscoredCandidateCount := unscored

theorem classifiedCounts_balanced (classified : List (Option QueueExclusionReason))
    (scored unscored : Nat) : (classifiedCounts classified scored unscored).Balanced := by
  refine ⟨?_, (sum_countP_members classified).symm⟩
  change classified.length =
    classified.countP (fun reason => reason.isNone) + classified.countP fun reason => reason.isSome
  induction classified with
  | nil => rfl
  | cons reason rest ih =>
      simp only [List.length_cons, List.countP_cons, ih]
      cases reason <;> simp <;> omega

section
variable [Sha256] {records : List CandidatePersistenceRecord} {evaluatedAtUtc : DateTime}
  {audience : ReviewQueueAudience} {policy : ReviewQueuePolicy}
  {accessScopeFilter : Option QueueAccessScopeFilter}

omit [Sha256] in
/-- The counts of the queue in memory, by what it says of the candidates it sees. -/
theorem reviewQueueCounts_eq (aware : evaluatedAtUtc.isNaive = false) :
    reviewQueueCounts records audience policy evaluatedAtUtc accessScopeFilter =
      .ok (classifiedCounts
        ((visibleCandidates records audience evaluatedAtUtc).map fun candidate =>
          (snapshotExclusion records audience policy evaluatedAtUtc accessScopeFilter
            candidate).map QueueExclusion.reason)
        ((visibleCandidates records audience evaluatedAtUtc).countP fun candidate =>
          candidate.val.score.isSome)
        ((visibleCandidates records audience evaluatedAtUtc).countP fun candidate =>
          candidate.val.score.isNone)) := by
  rw [reviewQueueCounts, buildReviewQueueFromSnapshot_ok aware]
  change Except.ok _ = Except.ok _
  rw [Except.ok.injEq]
  ext
  · simp [classifiedCounts, visibleCandidates]
  · simp [classifiedCounts, rankedCandidates, eligibleCandidates, List.countP_eq_length_filter,
      List.filter_map, Function.comp_def]
  · simp [classifiedCounts, List.length_filterMap_eq_countP, List.countP_map, Function.comp_def]
  · rename_i reason
    simp only [classifiedCounts, List.countP_filterMap, List.countP_map]
    refine List.countP_congr fun candidate _ => ?_
    rw [Function.comp_apply]
    generalize snapshotExclusion records audience policy evaluatedAtUtc accessScopeFilter
      candidate = exclusion
    cases exclusion <;> simp
  · rfl
  · rfl

/-- The counts of the query, by what it says of the rows it starts from. -/
theorem readinessSummary_eq (stored : StoredRecords records) (audience : ReviewQueueAudience)
    (policy : ReviewQueuePolicy) (evaluatedAtUtc : DateTime)
    (accessScopeFilter : Option QueueAccessScopeFilter) :
    ∃ versions, (∀ version, version ∈ versions ↔ policy.acceptsScorePolicy version = true) ∧
      (reviewQueueTables records).readinessSummary audience
          policy.val.rankableScorePolicyVersions evaluatedAtUtc accessScopeFilter =
        .ok (classifiedCounts
          ((records.filter fun r => r.write.row.queueBase evaluatedAtUtc audience = some true).map
            fun r => (r.queueRow evaluatedAtUtc).exclusionReason evaluatedAtUtc versions
              accessScopeFilter)
          (records.filter fun r =>
            r.write.row.queueBase evaluatedAtUtc audience = some true).length
          0) := by
  obtain ⟨versions, normalized, rankable⟩ := normalize_policyVersions policy
  refine ⟨versions, rankable, ?_⟩
  have present (r : CandidatePersistenceRecord) :
      (r.queueRow evaluatedAtUtc).part "score" ≠ none := by
    rw [queueRow_score]
    nofun
  rw [ReviewQueueTables.readinessSummary, normalized, tables_base stored]
  change Except.ok _ = Except.ok _
  rw [Except.ok.injEq]
  ext
  · simp [classifiedCounts]
  · simp [classifiedCounts, Function.comp_def]
  · simp [classifiedCounts, Function.comp_def]
  · simp [classifiedCounts, Function.comp_def]
  · simp [classifiedCounts, isNotNull, Function.comp_def, Option.isSome_iff_ne_none, present]
  · simp [classifiedCounts, isNull, Function.comp_def, present]

/-- No candidate of the time is suppressed outside the posture of the audience. -/
def SuppressedInside (records : List CandidatePersistenceRecord) (audience : ReviewQueueAudience)
    (evaluatedAtUtc : DateTime) : Prop :=
  ∀ r ∈ records, r.val.candidate.val.createdAtUtc ≤ evaluatedAtUtc →
    r.val.candidate.val.suppressionReason.isSome = true →
    r.val.candidate.val.reviewPosture = audience.requiredPosture

def VisibleScored (records : List CandidatePersistenceRecord) (audience : ReviewQueueAudience)
    (evaluatedAtUtc : DateTime) : Prop :=
  ∀ r ∈ records, r.VisibleTo audience evaluatedAtUtc →
    r.val.candidate.val.score.isSome = true

theorem visible_queueBase (stored : StoredRecords records) {r : CandidatePersistenceRecord}
    (member : r ∈ records) (seen : r.VisibleTo audience evaluatedAtUtc) :
    r.write.row.queueBase evaluatedAtUtc audience = some true :=
  (row_queueBase (stored.candidates r member) audience).mpr ⟨seen.1, .inl seen.2⟩

theorem base_eq_visible_iff (stored : StoredRecords records) :
    (records.filter fun r => r.write.row.queueBase evaluatedAtUtc audience = some true).length =
        (visibleReviewQueueCandidateRecords records audience evaluatedAtUtc).length ↔
      SuppressedInside records audience evaluatedAtUtc := by
  have visible : visibleReviewQueueCandidateRecords records audience evaluatedAtUtc =
      (records.filter fun r => r.write.row.queueBase evaluatedAtUtc audience = some true).filter
        fun r => r.VisibleTo audience evaluatedAtUtc := by
    rw [visibleReviewQueueCandidateRecords, List.filter_filter]
    refine List.filter_congr fun r member => ?_
    rw [Bool.eq_iff_iff, Bool.and_eq_true, decide_eq_true_eq, decide_eq_true_eq]
    exact (and_iff_left_of_imp (visible_queueBase stored member)).symm
  rw [visible, eq_comm, List.length_filter_eq_length_iff]
  simp only [List.mem_filter, decide_eq_true_eq, and_imp]
  refine forall₂_congr fun r member => ?_
  rw [row_queueBase (stored.candidates r member)]
  constructor
  · intro seen created suppressed
    exact (seen ⟨created, .inr suppressed⟩).2
  · rintro inside ⟨created, shown⟩
    exact ⟨created, shown.elim id (inside created)⟩

/-- The two readiness reads always add up, and report the same counts exactly when
every candidate that the audience sees has a score and no candidate of the time is
suppressed outside its posture. -/
theorem reviewQueue_counts_iff (stored : StoredRecords records)
    (aware : evaluatedAtUtc.isNaive = false) (audience : ReviewQueueAudience)
    (policy : ReviewQueuePolicy) (accessScopeFilter : Option QueueAccessScopeFilter) :
    ∃ queried counted,
      (reviewQueueTables records).readinessSummary audience
        policy.val.rankableScorePolicyVersions evaluatedAtUtc accessScopeFilter = .ok queried ∧
      reviewQueueCounts records audience policy evaluatedAtUtc accessScopeFilter = .ok counted ∧
      queried.Balanced ∧ counted.Balanced ∧
      (queried = counted ↔
        SuppressedInside records audience evaluatedAtUtc ∧
          VisibleScored records audience evaluatedAtUtc) := by
  obtain ⟨versions, rankable, queried⟩ :=
    readinessSummary_eq stored audience policy evaluatedAtUtc accessScopeFilter
  refine ⟨_, _, queried, reviewQueueCounts_eq aware, classifiedCounts_balanced _ _ _,
    classifiedCounts_balanced _ _ _, ?_⟩
  constructor
  · intro same
    have total := congrArg ReviewQueueCounts.candidateSnapshotCount same
    have unscored := congrArg ReviewQueueCounts.unscoredCandidateCount same
    simp only [classifiedCounts, visibleCandidates, List.length_map] at total
    refine ⟨(base_eq_visible_iff stored).mp total, ?_⟩
    have scored := List.countP_eq_zero.mp unscored.symm
    intro r member seen
    have listed : r.val.candidate ∈ visibleCandidates records audience evaluatedAtUtc :=
      List.mem_map.mpr ⟨r, mem_visible.mpr ⟨member, seen⟩, rfl⟩
    simpa [Option.isSome_iff_ne_none] using scored _ listed
  · rintro ⟨inside, scored⟩
    have based :
        (records.filter fun r => r.write.row.queueBase evaluatedAtUtc audience = some true) =
          visibleReviewQueueCandidateRecords records audience evaluatedAtUtc := by
      refine List.filter_congr fun r member => decide_eq_decide.mpr ⟨fun shown => ?_,
        visible_queueBase stored member⟩
      obtain ⟨created, shown⟩ := (row_queueBase (stored.candidates r member) audience).mp shown
      exact ⟨created, shown.elim id (inside r member created)⟩
    have classified : ((visibleReviewQueueCandidateRecords records audience evaluatedAtUtc).map
          fun r => (r.queueRow evaluatedAtUtc).exclusionReason evaluatedAtUtc versions
            accessScopeFilter) =
        (visibleCandidates records audience evaluatedAtUtc).map fun candidate =>
          (snapshotExclusion records audience policy evaluatedAtUtc accessScopeFilter
            candidate).map QueueExclusion.reason := by
      rw [visibleCandidates, List.map_map]
      refine List.map_congr_left fun r listed => ?_
      obtain ⟨member, seen⟩ := mem_visible.mp listed
      rw [queueRow_exclusionReason (stored.candidates r member)
        (stored.reviewDecisions r member) rankable (scored r member seen)]
      exact (queueExclusion_reason
        (activeSnoozeIndex_get? stored.distinct.visible listed)).symm
    have allScored : ∀ candidate ∈ visibleCandidates records audience evaluatedAtUtc,
        candidate.val.score.isSome = true := by
      intro candidate listed
      obtain ⟨r, seen, rfl⟩ := List.mem_map.mp listed
      obtain ⟨member, seen⟩ := mem_visible.mp seen
      exact scored r member seen
    have noneUnscored : (visibleCandidates records audience evaluatedAtUtc).countP
        (fun candidate => candidate.val.score.isNone) = 0 := by
      rw [List.countP_eq_zero]
      intro candidate listed
      rw [← Option.not_isSome, allScored candidate listed]
      decide
    rw [based, classified, List.countP_eq_length.mpr allScored, noneUnscored, visibleCandidates,
      List.length_map]

end

/-! ## A candidate without a score -/

section Sample

local instance readinessSha256 : Sha256 := .zeros

def sampleUnscoredRecords : List CandidatePersistenceRecord :=
  [sampleQueueRecord (sampleCandidate false)]

theorem sampleUnscored_representable : (sampleCandidate false).Representable where
  evidencePacket := sampleEvidencePacket_representable
  score := nofun
  createdAtUtc := sampleScored_representable.createdAtUtc
  updatedAtUtc := sampleScored_representable.updatedAtUtc

theorem sampleUnscoredRecords_stored : StoredRecords sampleUnscoredRecords where
  distinct := by decide
  candidates := by
    intro r member
    rw [List.mem_singleton.mp member]
    exact sampleUnscored_representable
  readBack := by
    intro r member
    rw [List.mem_singleton.mp member]
    exact candidateFromJson_toJson sampleUnscored_representable nofun
  reviewDecisions := by
    intro r member d listed
    rw [List.mem_singleton.mp member] at listed
    cases listed

/-- The query counts the candidate as scored, the queue in memory as unscored. -/
theorem sampleUnscored_counts_differ :
    ∃ queried counted,
      (reviewQueueTables sampleUnscoredRecords).readinessSummary .advisor
        defaultReviewQueuePolicy.val.rankableScorePolicyVersions sampleQueueTime none =
          .ok queried ∧
      reviewQueueCounts sampleUnscoredRecords .advisor defaultReviewQueuePolicy sampleQueueTime
        none = .ok counted ∧
      queried.unscoredCandidateCount = 0 ∧ counted.unscoredCandidateCount = 1 ∧
      queried ≠ counted := by
  obtain ⟨_, _, queried⟩ := readinessSummary_eq sampleUnscoredRecords_stored .advisor
    defaultReviewQueuePolicy sampleQueueTime none
  have aware : sampleQueueTime.isNaive = false := rfl
  have one : (visibleCandidates sampleUnscoredRecords .advisor sampleQueueTime).countP
      (fun candidate => candidate.val.score.isNone) = 1 := by decide
  refine ⟨_, _, queried, reviewQueueCounts_eq aware, rfl, one, fun same => ?_⟩
  have unscored := congrArg ReviewQueueCounts.unscoredCandidateCount same
  simp only [classifiedCounts, one] at unscored
  exact absurd unscored (by decide)

theorem reviewQueue_counts_iff_sample :
    ∃ queried counted,
      (reviewQueueTables sampleUnscoredRecords).readinessSummary .advisor
        defaultReviewQueuePolicy.val.rankableScorePolicyVersions sampleQueueTime none =
          .ok queried ∧
      reviewQueueCounts sampleUnscoredRecords .advisor defaultReviewQueuePolicy sampleQueueTime
        none = .ok counted ∧
      (queried = counted ↔
        SuppressedInside sampleUnscoredRecords .advisor sampleQueueTime ∧
          VisibleScored sampleUnscoredRecords .advisor sampleQueueTime) := by
  have aware : sampleQueueTime.isNaive = false := rfl
  obtain ⟨queried, counted, first, second, _, _, same⟩ := reviewQueue_counts_iff
    sampleUnscoredRecords_stored aware .advisor defaultReviewQueuePolicy none
  exact ⟨queried, counted, first, second, same⟩

end Sample

end LotusIdea

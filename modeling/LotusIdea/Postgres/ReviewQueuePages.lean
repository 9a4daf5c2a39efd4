import LotusIdea.Postgres.CodecLosslessness
import LotusIdea.Postgres.ReviewQueueRows

/-!
# Pages against the queue in memory

A page is cut from the candidates that the queue in memory ranks, sorted with the
text of their creation times, and numbered from its offset.  Joined, the pages are
the queue exactly when that text sorts them as the time does.
-/

set_option autoImplicit false

namespace LotusIdea

open Json Sql

/-! ## Evaluating a page -/

/-- The versions of a policy are kept as they are: the constructor has checked them. -/
theorem normalize_policyVersions (policy : ReviewQueuePolicy) :
    ∃ versions, normalizeRankableScorePolicyVersions policy.val.rankableScorePolicyVersions =
        .ok versions ∧
      ∀ version, version ∈ versions ↔ policy.acceptsScorePolicy version = true := by
  have kept : policy.val.rankableScorePolicyVersions.map PyText.strip =
      policy.val.rankableScorePolicyVersions :=
    (List.map_congr_left policy.stripped).trans (List.map_id' _)
  have perm : (normalizedVersions policy.val.rankableScorePolicyVersions).Perm
      policy.val.rankableScorePolicyVersions := by
    rw [normalizedVersions, kept]
    exact List.perm_insertionSort _ _
  have valid := policy.valid
  simp only [ReviewQueuePolicyFields.checks, firstFailure_cons, List.isEmpty_eq_false_iff,
    List.contains_eq_mem, decide_eq_false_iff_not, Bool.not_eq_false', decide_eq_true_eq] at valid
  obtain ⟨_, given, noBlank, distinct, _⟩ := valid
  have passes : validate
      [((normalizedVersions policy.val.rankableScorePolicyVersions).isEmpty ||
          (normalizedVersions policy.val.rankableScorePolicyVersions).contains "",
         .valueError "rankable_score_policy_versions is required"),
       (!decide (normalizedVersions policy.val.rankableScorePolicyVersions).Nodup,
         .valueError "rankable_score_policy_versions must be unique")] = .ok () := by
    rw [validate_eq_ok]
    simp only [firstFailure_cons, firstFailure_nil, Bool.or_eq_false_iff, List.isEmpty_eq_false_iff,
      List.contains_eq_mem, decide_eq_false_iff_not, Bool.not_eq_false', decide_eq_true_eq,
      perm.nodup_iff, perm.mem_iff, and_true]
    refine ⟨⟨fun empty => given ?_, noBlank⟩, distinct⟩
    rw [empty] at perm
    exact perm.symm.eq_nil
  refine ⟨normalizedVersions policy.val.rankableScorePolicyVersions, ?_, ?_⟩
  · rw [normalizeRankableScorePolicyVersions, passes]
    rfl
  · intro version
    rw [perm.mem_iff, ReviewQueuePolicy.acceptsScorePolicy, List.contains_iff_mem]

section
variable [Sha256] {records : List CandidatePersistenceRecord} {evaluatedAtUtc : DateTime}
  {audience : ReviewQueueAudience} {policy : ReviewQueuePolicy}
  {accessScopeFilter : Option QueueAccessScopeFilter}

/-- The order of a page: as the queue's, with the text of the creation time. -/
def pageSortKey (candidate : IdeaCandidate) : ℚ ×ₗ String ×ₗ String :=
  toLex (-candidateScore candidate,
    toLex (candidate.val.createdAtUtc.isoformat, candidate.val.candidateId))

theorem queueRow_pageKey_le {a b : CandidatePersistenceRecord}
    (aStored : a.val.candidate.Representable) (bStored : b.val.candidate.Representable)
    (aScored : a.val.candidate.val.score.isSome = true)
    (bScored : b.val.candidate.val.score.isSome = true) :
    (a.queueRow evaluatedAtUtc).pageKey ≤ (b.queueRow evaluatedAtUtc).pageKey ↔
      pageSortKey a.val.candidate ≤ pageSortKey b.val.candidate := by
  obtain ⟨aScore, aScored⟩ := Option.isSome_iff_exists.mp aScored
  obtain ⟨bScore, bScored⟩ := Option.isSome_iff_exists.mp bScored
  simp only [ReviewQueueRow.pageKey, queueRow_queueScore aStored, queueRow_queueScore bStored,
    queueRow_createdAtUtc, pageSortKey, candidateScore, aScored, bScored, Option.map_some,
    Option.elim_some, Prod.Lex.toLex_le_toLex]
  simp only [OrderDual.toDual_lt_toDual, OrderDual.toDual_inj, nullsLast_lt, nullsLast_inj,
    neg_lt_neg_iff, neg_inj]
  rfl

/-- A row is selected exactly when the queue in memory ranks its candidate. -/
theorem queueRow_selected_iff (stored : StoredRecords records) {r : CandidatePersistenceRecord}
    (member : r ∈ records) {versions : List String}
    (rankable : ∀ version, version ∈ versions ↔ policy.acceptsScorePolicy version = true) :
    (r.write.row.queueBase evaluatedAtUtc audience = some true ∧
      (r.queueRow evaluatedAtUtc).eligible evaluatedAtUtc versions accessScopeFilter =
        some true) ↔
    r.VisibleTo audience evaluatedAtUtc ∧
      snapshotExclusion records audience policy evaluatedAtUtc accessScopeFilter
        r.val.candidate = none := by
  have representable := stored.candidates r member
  have decisions := stored.reviewDecisions r member
  have indexed (seen : r.VisibleTo audience evaluatedAtUtc) :
      (activeSnoozeIndex (activeSnoozes (visibleReviewQueueCandidateRecords records audience
        evaluatedAtUtc) evaluatedAtUtc) evaluatedAtUtc).get? r.val.candidate.val.candidateId =
          r.activeSnooze evaluatedAtUtc :=
    activeSnoozeIndex_get? stored.distinct.visible (mem_visible.mpr ⟨member, seen⟩)
  rw [row_queueBase representable]
  constructor
  · rintro ⟨⟨created, shown⟩, eligible⟩
    have unsuppressed := ((queueRow_eligible_iff representable decisions rankable
      (activeSnoozeIndex_get? stored.distinct member)).mp eligible).unsuppressed
    have seen : r.VisibleTo audience evaluatedAtUtc :=
      ⟨created, shown.resolve_right (by simp [unsuppressed.1])⟩
    exact ⟨seen, queueExclusionForCandidate_none.mpr
      ((queueRow_eligible_iff representable decisions rankable (indexed seen)).mp eligible)⟩
  · rintro ⟨seen, kept⟩
    exact ⟨⟨seen.1, .inl seen.2⟩,
      (queueRow_eligible_iff representable decisions rankable (indexed seen)).mpr
        (queueExclusionForCandidate_none.mp kept)⟩

/-- The rows that a page is cut from stand for the candidates that the queue in
memory ranks. -/
theorem tables_eligible (stored : StoredRecords records) (audience : ReviewQueueAudience)
    (evaluatedAtUtc : DateTime) (accessScopeFilter : Option QueueAccessScopeFilter)
    {versions : List String}
    (rankable : ∀ version, version ∈ versions ↔ policy.acceptsScorePolicy version = true) :
    ∃ selected : List CandidatePersistenceRecord,
      (∀ r ∈ selected, r ∈ records ∧ r.val.candidate.val.score.isSome = true) ∧
      ((reviewQueueTables records).base audience evaluatedAtUtc).filter (fun row =>
        row.eligible evaluatedAtUtc versions accessScopeFilter = some true) =
          selected.map (fun r => r.queueRow evaluatedAtUtc) ∧
      selected.map (fun r => r.val.candidate) =
        eligibleCandidates records audience policy evaluatedAtUtc accessScopeFilter := by
  refine ⟨records.filter fun r => r.VisibleTo audience evaluatedAtUtc ∧
    snapshotExclusion records audience policy evaluatedAtUtc accessScopeFilter r.val.candidate =
      none, ?_, ?_, ?_⟩
  · intro r listed
    obtain ⟨member, selects⟩ := List.mem_filter.mp listed
    obtain ⟨score, scored, _⟩ :=
      (queueExclusionForCandidate_none.mp (of_decide_eq_true selects).2).ranked
    exact ⟨member, by rw [scored]; rfl⟩
  · rw [tables_base stored, List.filter_map, List.filter_filter]
    congr 1
    refine List.filter_congr fun r member => ?_
    rw [Function.comp_apply, ← Bool.decide_and, decide_eq_decide]
    exact and_comm.trans (queueRow_selected_iff stored member rankable)
  · rw [eligibleCandidates, visibleCandidates, visibleReviewQueueCandidateRecords,
      List.filter_map, List.filter_filter]
    congr 1
    refine List.filter_congr fun r _ => ?_
    rw [Function.comp_apply, Bool.decide_and, Bool.and_comm]
    congr 1
    rw [Bool.eq_iff_iff, decide_eq_true_eq, Option.isNone_iff_eq_none]

theorem tables_candidatePage (stored : StoredRecords records) {limit : Nat} (positive : 1 ≤ limit)
    (offset : Nat) :
    (reviewQueueTables records).candidatePage audience policy.val.rankableScorePolicyVersions
        evaluatedAtUtc accessScopeFilter limit offset =
      .ok (page (orderBy pageSortKey (eligibleCandidates records audience policy evaluatedAtUtc
        accessScopeFilter)) limit offset) := by
  obtain ⟨versions, normalized, rankable⟩ := normalize_policyVersions policy
  obtain ⟨selected, facts, rows, candidates⟩ :=
    tables_eligible stored audience evaluatedAtUtc accessScopeFilter rankable
  have passes : validate [(decide (limit < 1), .valueError "limit must be positive")] = .ok () := by
    rw [validate_eq_ok]
    simp [firstFailure, Nat.pos_iff_ne_zero.mp positive]
  have ordered : (orderBy (fun r => (r.queueRow evaluatedAtUtc).pageKey) selected).map
      (fun r => r.val.candidate) =
      orderBy pageSortKey (selected.map fun r => r.val.candidate) := by
    refine map_orderBy _ fun a aListed b bListed => ?_
    obtain ⟨aMember, aScored⟩ := facts a aListed
    obtain ⟨bMember, bScored⟩ := facts b bListed
    exact queueRow_pageKey_le (stored.candidates a aMember) (stored.candidates b bMember) aScored
      bScored
  rw [ReviewQueueTables.candidatePage, passes, normalized]
  simp only [Except.mapError, ok_bind]
  rw [rows, orderBy_map, page_map, List.map_map, ← candidates, ← ordered, page_map]
  refine mapM_written _ fun r listed => stored.readBack r ?_
  exact (facts r (mem_orderBy.mp (mem_of_mem_page listed))).1

omit [Sha256] in
theorem mem_eligibleCandidates {candidate : IdeaCandidate} :
    candidate ∈ eligibleCandidates records audience policy evaluatedAtUtc accessScopeFilter ↔
      (∃ r ∈ records, r.VisibleTo audience evaluatedAtUtc ∧ r.val.candidate = candidate) ∧
        snapshotExclusion records audience policy evaluatedAtUtc accessScopeFilter candidate =
          none := by
  simp [eligibleCandidates, visibleCandidates, mem_visible, and_assoc]

omit [Sha256] in
/-- A ranked candidate is ranked in a queue without snoozes too. -/
theorem eligible_ranked {candidates : List IdeaCandidate}
    (eligible : ∀ c ∈ candidates, c ∈ eligibleCandidates records audience policy evaluatedAtUtc
      accessScopeFilter) (aware : evaluatedAtUtc.isNaive = false) :
    buildReviewQueue candidates audience policy evaluatedAtUtc [] accessScopeFilter =
      .ok
        { audience := audience
          policyVersion := policy.val.policyVersion
          evaluatedAtUtc := evaluatedAtUtc
          items := (rankedCandidates candidates).mapIdx (rankedItem policy)
          exclusions := [] } := by
  have passes : validate [requireAware evaluatedAtUtc "evaluated_at_utc"] = .ok () := by
    simp [validate, requireAware, aware, firstFailure]
  have considered : candidates.filter (queueConsiders audience) = candidates := by
    rw [List.filter_eq_self]
    intro c listed
    obtain ⟨⟨r, _, seen, rfl⟩, _⟩ := mem_eligibleCandidates.mp (eligible c listed)
    simp [queueConsiders, seen.2]
  have kept : ∀ c ∈ candidates, queueExclusionForCandidate c
      (activeSnoozeIndex [] evaluatedAtUtc) accessScopeFilter policy evaluatedAtUtc = none := by
    intro c listed
    have ranked := queueExclusionForCandidate_none.mp
      (mem_eligibleCandidates.mp (eligible c listed)).2
    exact queueExclusionForCandidate_none.mpr { ranked with awake := rfl }
  have selected : candidates.filter (fun c => (queueExclusionForCandidate c
      (activeSnoozeIndex [] evaluatedAtUtc) accessScopeFilter policy evaluatedAtUtc).isNone) =
        candidates := by
    rw [List.filter_eq_self]
    intro c listed
    rw [kept c listed]
    rfl
  have none_excluded : candidates.filterMap (fun c => queueExclusionForCandidate c
      (activeSnoozeIndex [] evaluatedAtUtc) accessScopeFilter policy evaluatedAtUtc) = [] := by
    rw [List.filterMap_eq_nil_iff]
    exact kept
  rw [buildReviewQueue, passes]
  simp only [considered]
  change Except.ok _ = _
  rw [selected, none_excluded]

/-- A page is ranked by the queue's order, from its offset on. -/
theorem tables_queuePage (stored : StoredRecords records) (aware : evaluatedAtUtc.isNaive = false)
    {limit : Nat} (positive : 1 ≤ limit) (offset : Nat) :
    (reviewQueueTables records).queuePage audience policy evaluatedAtUtc accessScopeFilter limit
        offset =
      .ok ((rankedCandidates (page (orderBy pageSortKey (eligibleCandidates records audience policy
        evaluatedAtUtc accessScopeFilter)) limit offset)).mapIdx fun i =>
          rankedItem policy (offset + i)) := by
  rw [ReviewQueueTables.queuePage, tables_candidatePage stored positive, ok_bind,
    eligible_ranked (fun c listed => mem_orderBy.mp (mem_of_mem_page listed)) aware]
  simp only [Except.mapError, ok_bind, List.mapIdx_mapIdx]
  rfl

theorem tables_queuePages (stored : StoredRecords records) (aware : evaluatedAtUtc.isNaive = false)
    {limit : Nat} (positive : 1 ≤ limit) (count : Nat) :
    (reviewQueueTables records).queuePages audience policy evaluatedAtUtc accessScopeFilter limit
        count =
      .ok ((List.range count).flatMap fun k =>
        (rankedCandidates (page (orderBy pageSortKey (eligibleCandidates records audience policy
          evaluatedAtUtc accessScopeFilter)) limit (k * limit))).mapIdx fun i =>
            rankedItem policy (k * limit + i)) := by
  rw [ReviewQueueTables.queuePages,
    Except.mapM_ok fun k _ => tables_queuePage stored aware positive (k * limit),
    ok_bind, List.flatMap_def]
  rfl

end

/-! ## The two orders -/

section
variable {candidates : List IdeaCandidate}

/-- Of two candidates with one score, the one that comes first in memory has no
later text of its creation time. -/
def CreationTextsOrdered (candidates : List IdeaCandidate) : Prop :=
  ∀ a ∈ candidates, ∀ b ∈ candidates, candidateScore a = candidateScore b →
    toLex (a.val.createdAtUtc.instant, a.val.candidateId) ≤
      toLex (b.val.createdAtUtc.instant, b.val.candidateId) →
    a.val.createdAtUtc.isoformat ≤ b.val.createdAtUtc.isoformat

theorem pageSortKey_agrees_iff (inRange : ∀ c ∈ candidates, c.val.createdAtUtc.InRange) :
    (∀ a ∈ candidates, ∀ b ∈ candidates,
      pageSortKey a ≤ pageSortKey b ↔ queueSortKey a ≤ queueSortKey b) ↔
    CreationTextsOrdered candidates := by
  constructor
  · intro agree a a_listed b b_listed score first
    have sorted : queueSortKey a ≤ queueSortKey b :=
      Prod.Lex.toLex_le_toLex'.mpr ⟨(congrArg Neg.neg score).le, fun _ => first⟩
    have paged := Prod.Lex.toLex_le_toLex'.mp ((agree a a_listed b b_listed).mpr sorted)
    exact (Prod.Lex.toLex_le_toLex'.mp (paged.2 (congrArg Neg.neg score))).1
  · intro ordered
    have texts {a b : IdeaCandidate} (a_listed : a ∈ candidates) (b_listed : b ∈ candidates)
        (score : candidateScore a = candidateScore b)
        (first : toLex (a.val.createdAtUtc.instant, a.val.candidateId) ≤
          toLex (b.val.createdAtUtc.instant, b.val.candidateId)) :
        toLex (a.val.createdAtUtc.isoformat, a.val.candidateId) ≤
          toLex (b.val.createdAtUtc.isoformat, b.val.candidateId) := by
      refine Prod.Lex.toLex_le_toLex'.mpr ⟨ordered a a_listed b b_listed score first, ?_⟩
      intro text
      have time := DateTime.isoformat_injective (inRange a a_listed) (inRange b b_listed) text
      exact (Prod.Lex.toLex_le_toLex'.mp first).2 (congrArg DateTime.instant time)
    intro a a_listed b b_listed
    refine Prod.Lex.toLex_le_toLex'.trans (Iff.trans ?_ Prod.Lex.toLex_le_toLex'.symm)
    refine and_congr_right fun _ => imp_congr_right fun negated => ?_
    have score : candidateScore a = candidateScore b := neg_inj.mp negated
    refine ⟨fun paged => ?_, texts a_listed b_listed score⟩
    rcases le_total (toLex (a.val.createdAtUtc.instant, a.val.candidateId))
      (toLex (b.val.createdAtUtc.instant, b.val.candidateId)) with first | later
    · exact first
    · have same := le_antisymm paged (texts b_listed a_listed score.symm later)
      obtain ⟨text, id⟩ := Prod.mk.inj (toLex.injective same)
      have time := DateTime.isoformat_injective (inRange a a_listed) (inRange b b_listed) text
      rw [time, id]

end

section
variable [Sha256] {records : List CandidatePersistenceRecord} {evaluatedAtUtc : DateTime}
  {audience : ReviewQueueAudience} {policy : ReviewQueuePolicy}
  {accessScopeFilter : Option QueueAccessScopeFilter}

omit [Sha256] in
theorem eligibleCandidates_keyed (distinct : CandidatesDistinct records) :
    ∀ a ∈ eligibleCandidates records audience policy evaluatedAtUtc accessScopeFilter,
      ∀ b ∈ eligibleCandidates records audience policy evaluatedAtUtc accessScopeFilter,
        a.val.candidateId = b.val.candidateId → a = b := by
  intro a a_listed b b_listed same
  obtain ⟨⟨r, r_member, _, rfl⟩, _⟩ := mem_eligibleCandidates.mp a_listed
  obtain ⟨⟨other, other_member, _, rfl⟩, _⟩ := mem_eligibleCandidates.mp b_listed
  rw [List.inj_on_of_nodup_map distinct r_member other_member same]

omit [Sha256] in
theorem rankedCandidates_page_one {rows : List IdeaCandidate} {offset : Nat} :
    rankedCandidates (page rows 1 offset) = page rows 1 offset := by
  rw [page]
  cases rows.drop offset with
  | nil => rfl
  | cons first rest => rfl

/-- Pages of every size give the queue exactly when the two orders agree. -/
theorem tables_queuePages_iff (stored : StoredRecords records)
    (aware : evaluatedAtUtc.isNaive = false) :
    (∀ limit, 1 ≤ limit → ∀ count,
      (eligibleCandidates records audience policy evaluatedAtUtc accessScopeFilter).length ≤
        count * limit →
      (reviewQueueTables records).queuePages audience policy evaluatedAtUtc accessScopeFilter
          limit count =
        .ok ((rankedCandidates (eligibleCandidates records audience policy evaluatedAtUtc
          accessScopeFilter)).mapIdx (rankedItem policy))) ↔
    CreationTextsOrdered
      (eligibleCandidates records audience policy evaluatedAtUtc accessScopeFilter) := by
  generalize listed :
    eligibleCandidates records audience policy evaluatedAtUtc accessScopeFilter = eligible
  have inRange : ∀ c ∈ eligible, c.val.createdAtUtc.InRange := by
    intro c member
    rw [← listed] at member
    obtain ⟨⟨r, r_member, _, rfl⟩, _⟩ := mem_eligibleCandidates.mp member
    exact (stored.candidates r r_member).createdAtUtc
  have keyed : ∀ a ∈ eligible, ∀ b ∈ eligible, a.val.candidateId = b.val.candidateId → a = b :=
    listed ▸ eligibleCandidates_keyed stored.distinct
  have pageKeyed : KeyedBy pageSortKey eligible := by
    intro a a_listed b b_listed same
    refine keyed a a_listed b b_listed ?_
    exact (Prod.mk.inj (toLex.injective (Prod.mk.inj (toLex.injective same)).2)).2
  have queueKeyed : KeyedBy queueSortKey eligible := by
    intro a a_listed b b_listed same
    refine keyed a a_listed b b_listed ?_
    exact (Prod.mk.inj (toLex.injective (Prod.mk.inj (toLex.injective same)).2)).2
  rw [← pageSortKey_agrees_iff inRange, ← orderBy_eq_iff pageKeyed queueKeyed]
  constructor
  · intro pages
    have one := pages 1 le_rfl eligible.length (by omega)
    rw [tables_queuePages stored aware le_rfl, listed] at one
    simp only [rankedCandidates_page_one, Except.ok.injEq] at one
    rw [numbered_pages_join, Nat.mul_one, ← length_orderBy pageSortKey eligible,
      List.take_length] at one
    have candidates := congrArg (List.map ReviewQueueItem.candidate) one
    rwa [rankedItems_candidates, rankedItems_candidates] at candidates
  · intro same limit positive count covers
    rw [tables_queuePages stored aware positive, listed]
    have ranked (k : Nat) : rankedCandidates (page (orderBy pageSortKey eligible) limit k) =
        page (orderBy pageSortKey eligible) limit k := by
      change orderBy queueSortKey _ = _
      refine orderBy_eq_self ?_
      rw [same]
      exact (orderBy_sorted queueSortKey eligible).sublist
        ((List.take_sublist _ _).trans (List.drop_sublist _ _))
    simp only [ranked]
    rw [numbered_pages_join, List.take_of_length_le (by rwa [length_orderBy]), same]
    rfl

/-- What the items of a queue over these candidates are. -/
structure QueueRanks (eligible : List IdeaCandidate) (items : List ReviewQueueItem) : Prop where
  once : (items.map ReviewQueueItem.candidate).Perm eligible
  ordered : items.Pairwise fun a b => queueSortKey a.candidate ≤ queueSortKey b.candidate
  ranks : items.map ReviewQueueItem.rank = List.range' 1 eligible.length

omit [Sha256] in
theorem rankedItems_ranks (eligible : List IdeaCandidate) :
    QueueRanks eligible ((rankedCandidates eligible).mapIdx (rankedItem policy)) where
  once := by
    rw [rankedItems_candidates]
    exact orderBy_perm queueSortKey eligible
  ordered := by
    have sorted := orderBy_sorted queueSortKey eligible
    rw [← rankedItems_candidates policy (orderBy queueSortKey eligible), List.pairwise_map] at sorted
    exact sorted
  ranks := by
    refine List.ext_getElem (by simp [rankedCandidates]) ?_
    intro index _ _
    simp [rankedItem, Nat.add_comm]

/-- The queries select the candidates that the queue in memory ranks, and the pages
of every size are its items, exactly when the texts of the creation times sort the
ranked candidates as the times do. -/
theorem reviewQueue_pages_iff (stored : StoredRecords records)
    (aware : evaluatedAtUtc.isNaive = false) (audience : ReviewQueueAudience)
    (policy : ReviewQueuePolicy) (accessScopeFilter : Option QueueAccessScopeFilter) :
    ∃ versions queue,
      normalizeRankableScorePolicyVersions policy.val.rankableScorePolicyVersions =
        .ok versions ∧
      buildReviewQueueFromSnapshot records audience policy evaluatedAtUtc accessScopeFilter =
        .ok queue ∧
      QueueRanks (eligibleCandidates records audience policy evaluatedAtUtc accessScopeFilter)
        queue.items ∧
      (∀ r ∈ records,
        r.write.row.queueBase evaluatedAtUtc audience = some true ∧
            ((reviewQueueTables records).joined evaluatedAtUtc r.write.row).eligible
              evaluatedAtUtc versions accessScopeFilter = some true ↔
          r.VisibleTo audience evaluatedAtUtc ∧
            snapshotExclusion records audience policy evaluatedAtUtc accessScopeFilter
              r.val.candidate = none) ∧
      ((∀ limit, 1 ≤ limit → ∀ count, queue.items.length ≤ count * limit →
        (reviewQueueTables records).queuePages audience policy evaluatedAtUtc accessScopeFilter
          limit count = .ok queue.items) ↔
        CreationTextsOrdered
          (eligibleCandidates records audience policy evaluatedAtUtc accessScopeFilter)) := by
  obtain ⟨versions, normalized, rankable⟩ := normalize_policyVersions policy
  refine ⟨versions, _, normalized, buildReviewQueueFromSnapshot_ok aware, rankedItems_ranks _, ?_,
    ?_⟩
  · intro r member
    rw [tables_joined stored member]
    exact queueRow_selected_iff stored member rankable
  · simp only [List.length_mapIdx, rankedCandidates, List.length_insertionSort]
    exact tables_queuePages_iff stored aware

end

/-! ## Two candidates created under different offsets -/

def sampleRankableScore : IdeaScore where
  val := { sampleScore.val with policyVersion := "idle-liquidity-v2" }
  valid := by decide +kernel

/-- A candidate of the sample score, created at a time with an offset. -/
def sampleQueued (candidateId : String) (createdAtUtc : DateTime) : IdeaCandidateFields :=
  { (sampleCandidate false).val with
    candidateId := candidateId
    score := some sampleRankableScore
    createdAtUtc := createdAtUtc }

/-- Created at eight o'clock UTC, written as ten o'clock two hours east. -/
def sampleEarlier : IdeaCandidate where
  val := sampleQueued "idea-1" ⟨28800000000, some 7200000000⟩
  valid := by decide +kernel

/-- Created at nine o'clock UTC. -/
def sampleLater : IdeaCandidate where
  val := sampleQueued "idea-2" (.utc 32400000000)
  valid := by decide +kernel

def sampleQueueRecord (candidate : IdeaCandidate) : CandidatePersistenceRecord where
  val :=
    { candidate := candidate, evidenceHash := sampleDigest 'b', persistedAtUtc := .utc 32400000000 }
  valid := by
    have passed : firstFailure (requireText (sampleDigest 'b') "evidence_hash" ::
        requireAwareUtc (.utc 32400000000) "persisted_at_utc") = none := by decide +kernel
    exact passed

def sampleQueueRecords : List CandidatePersistenceRecord :=
  [sampleQueueRecord sampleEarlier, sampleQueueRecord sampleLater]

def sampleQueueTime : DateTime := .utc 36000000000

section Sample

local instance queueSha256 : Sha256 := .zeros

theorem sampleQueued_representable {candidate : IdeaCandidate} {candidateId : String}
    {createdAtUtc : DateTime} (queued : candidate.val = sampleQueued candidateId createdAtUtc)
    (inRange : createdAtUtc.InRange) : candidate.Representable where
  evidencePacket := by
    rw [queued]
    exact sampleEvidencePacket_representable
  score := by
    rw [queued]
    rintro s ⟨⟩
    exact
      { score := (sampleScored_representable.score sampleScore rfl).score
        contributions := (sampleScored_representable.score sampleScore rfl).contributions
        conflictPenaltyApplied :=
          (sampleScored_representable.score sampleScore rfl).conflictPenaltyApplied }
  createdAtUtc := by
    rw [queued]
    exact inRange
  updatedAtUtc := by
    rw [queued]
    exact sampleScored_representable.updatedAtUtc

theorem sampleQueueRecords_stored : StoredRecords sampleQueueRecords where
  distinct := by decide +kernel
  candidates := by
    intro r member
    rcases List.mem_pair.mp member with rfl | rfl
    · exact sampleQueued_representable rfl (by decide)
    · exact sampleQueued_representable rfl (by decide)
  readBack := by
    intro r member
    have known : ∀ s ∈ some sampleRankableScore, s.PolicyKnown := by
      rintro s ⟨⟩
      decide
    rcases List.mem_pair.mp member with rfl | rfl
    · exact candidateFromJson_toJson (sampleQueued_representable rfl (by decide)) known
    · exact candidateFromJson_toJson (sampleQueued_representable rfl (by decide)) known
  reviewDecisions := by
    intro r member d listed
    rcases List.mem_pair.mp member with rfl | rfl <;> cases listed

theorem sampleQueue_ranked :
    sampleEarlier ∈ eligibleCandidates sampleQueueRecords .advisor defaultReviewQueuePolicy
      sampleQueueTime none ∧
    sampleLater ∈ eligibleCandidates sampleQueueRecords .advisor defaultReviewQueuePolicy
      sampleQueueTime none := by
  have earlier : (snapshotExclusion sampleQueueRecords .advisor defaultReviewQueuePolicy
    sampleQueueTime none sampleEarlier).isNone = true := by decide +kernel
  have later : (snapshotExclusion sampleQueueRecords .advisor defaultReviewQueuePolicy
    sampleQueueTime none sampleLater).isNone = true := by decide +kernel
  constructor
  · exact mem_eligibleCandidates.mpr ⟨⟨sampleQueueRecord sampleEarlier, by simp [sampleQueueRecords],
      ⟨by decide, rfl⟩, rfl⟩, Option.isNone_iff_eq_none.mp earlier⟩
  · exact mem_eligibleCandidates.mpr ⟨⟨sampleQueueRecord sampleLater, by simp [sampleQueueRecords],
      ⟨by decide, rfl⟩, rfl⟩, Option.isNone_iff_eq_none.mp later⟩

/-- The candidate created an hour later has the lesser text, so its page comes first. -/
theorem sampleQueue_pages_differ :
    ∃ queue, buildReviewQueueFromSnapshot sampleQueueRecords .advisor defaultReviewQueuePolicy
        sampleQueueTime none = .ok queue ∧
      ¬ ∀ limit, 1 ≤ limit → ∀ count, queue.items.length ≤ count * limit →
        (reviewQueueTables sampleQueueRecords).queuePages .advisor defaultReviewQueuePolicy
          sampleQueueTime none limit count = .ok queue.items := by
  refine ⟨_, buildReviewQueueFromSnapshot_ok rfl, ?_⟩
  simp only [List.length_mapIdx, rankedCandidates, List.length_insertionSort]
  intro pages
  have ordered := (tables_queuePages_iff sampleQueueRecords_stored rfl).mp pages
  have texts := ordered sampleEarlier sampleQueue_ranked.1 sampleLater sampleQueue_ranked.2 rfl
    (Prod.Lex.toLex_le_toLex.mpr (.inl (by decide)))
  exact absurd texts (by decide +kernel)

theorem reviewQueue_pages_iff_sample :
    ∃ queue, buildReviewQueueFromSnapshot sampleQueueRecords .advisor defaultReviewQueuePolicy
        sampleQueueTime none = .ok queue ∧
      ((∀ limit, 1 ≤ limit → ∀ count, queue.items.length ≤ count * limit →
        (reviewQueueTables sampleQueueRecords).queuePages .advisor defaultReviewQueuePolicy
          sampleQueueTime none limit count = .ok queue.items) ↔
        CreationTextsOrdered (eligibleCandidates sampleQueueRecords .advisor
          defaultReviewQueuePolicy sampleQueueTime none)) := by
  have aware : sampleQueueTime.isNaive = false := rfl
  obtain ⟨_, queue, _, built, _, _, pages⟩ := reviewQueue_pages_iff sampleQueueRecords_stored aware
    .advisor defaultReviewQueuePolicy none
  exact ⟨queue, built, pages⟩

end Sample

end LotusIdea

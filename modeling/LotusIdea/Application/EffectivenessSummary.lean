import LotusIdea.Application.Effectiveness

/-!
# The effectiveness summary of a cohort

What the in-memory summary says of the records of a cohort.  Each of its counts is the
sum of the counts of the families, and it passes its own validation.
-/

set_option autoImplicit false

namespace LotusIdea

/-! ## The cohort -/

/-- Each candidate has one record. -/
def DistinctCandidates (records : List CandidatePersistenceRecord) : Prop :=
  (records.map fun record => record.val.candidate.val.candidateId).Nodup

section Cohort
variable [Sha256] {snapshot : IdeaRepository} {tenantId : String}
  {windowStartUtc windowEndUtc : DateTime} {maxOpportunities : Int}
  {records : List CandidatePersistenceRecord}

theorem IdeaRepository.Keyed.distinctCandidates (keyed : snapshot.Keyed) :
    DistinctCandidates snapshot.candidateRecords.values := by
  have named : (snapshot.candidateRecords.values.map fun record =>
      record.val.candidate.val.candidateId) = snapshot.candidateRecords.keys := by
    rw [Dict.values, Dict.keys, List.map_map]
    refine List.map_congr_left fun entry member => ?_
    exact keyed entry.1 entry.2 (Dict.get?_eq_some_iff.mpr member)
  rw [DistinctCandidates, named]
  exact snapshot.candidateRecords.nodup

omit [Sha256] in
/-- A turn keeps the cohort or appends the record, up to the bound. -/
theorem cohortTurn_returns {cohort later : List CandidatePersistenceRecord}
    {record : CandidatePersistenceRecord}
    (ran : cohortTurn tenantId windowStartUtc windowEndUtc maxOpportunities cohort record =
      .ok later) :
    later = cohort ∨ later = cohort ++ [record] ∧ (later.length : Int) ≤ maxOpportunities := by
  simp only [cohortTurn] at ran
  split at ran
  · cases ran
    exact .inl rfl
  · split at ran
    · cases ran
    · split at ran
      · cases ran
        exact .inl rfl
      · split at ran
        · cases ran
        · split at ran
          · cases ran
          · rename_i fits
            cases ran
            exact .inr ⟨rfl, not_lt.mp fits⟩

omit [Sha256] in
theorem cohortTurns_kept {items cohort later : List CandidatePersistenceRecord}
    (ran : items.foldlM (cohortTurn tenantId windowStartUtc windowEndUtc maxOpportunities) cohort =
      .ok later) (fits : (cohort.length : Int) ≤ maxOpportunities) :
    (later.length : Int) ≤ maxOpportunities ∧
      ∃ kept : List CandidatePersistenceRecord, kept.Sublist items ∧ later = cohort ++ kept := by
  induction items generalizing cohort with
  | nil =>
      cases ran
      exact ⟨fits, [], .slnil, (List.append_nil _).symm⟩
  | cons first rest ih =>
      rw [List.foldlM_cons] at ran
      obtain ⟨next, turn, further⟩ := Except.seq_returns.mp ran
      rcases cohortTurn_returns turn with rfl | ⟨rfl, bounded⟩
      · obtain ⟨small, kept, among, rfl⟩ := ih further fits
        exact ⟨small, kept, among.cons _, rfl⟩
      · obtain ⟨small, kept, among, rfl⟩ := ih further bounded
        exact ⟨small, first :: kept, among.cons_cons _, by simp⟩

omit [Sha256] in
theorem validateScope_bound {evaluatedAtUtc : DateTime}
    (passed : validateScope tenantId windowStartUtc windowEndUtc evaluatedAtUtc maxOpportunities =
      .ok ()) : 1 ≤ maxOpportunities ∧ maxOpportunities ≤ 10000 := by
  have checks := requireAll_eq_ok.mp passed
  simp only [firstFailure_cons, maxEffectivenessOpportunities] at checks
  obtain ⟨-, -, -, -, -, -, bounds, -⟩ := checks
  have inside := of_decide_eq_false bounds
  omega

theorem cohortRecords_sound (keyed : snapshot.Keyed) (positive : 1 ≤ maxOpportunities)
    (ran : cohortRecords snapshot tenantId windowStartUtc windowEndUtc maxOpportunities =
      .ok records) :
    DistinctCandidates records ∧ (records.length : Int) ≤ maxOpportunities := by
  obtain ⟨small, kept, among, rfl⟩ := cohortTurns_kept ran (by simp; omega)
  refine ⟨?_, small⟩
  have sorted := (Sql.orderBy_perm
    (fun record : CandidatePersistenceRecord => record.val.candidate.val.candidateId)
    snapshot.candidateRecords.values).map fun record => record.val.candidate.val.candidateId
  exact (sorted.nodup_iff.mpr keyed.distinctCandidates).sublist (among.map _)

end Cohort

/-! ## Presentations -/

section Presentations
variable {receipts : List CandidatePresentationReceipt}
  {records : List CandidatePersistenceRecord} {evaluatedAtUtc : DateTime}

/-- A receipt of the record's candidate was accepted by the evaluation time. -/
def isPresented (receipts : List CandidatePresentationReceipt) (evaluatedAtUtc : DateTime)
    (record : CandidatePersistenceRecord) : Bool :=
  receipts.any fun receipt =>
    decide (receipt.val.candidateId = record.val.candidate.val.candidateId ∧
      receipt.val.acceptedAtUtc ≤ evaluatedAtUtc)

theorem recordsByCandidate_get? (distinct : DistinctCandidates records)
    {record : CandidatePersistenceRecord} (member : record ∈ records) :
    (recordsByCandidate records).get? record.val.candidate.val.candidateId = some record :=
  Dict.get?_fill (fun record : CandidatePersistenceRecord => record.val.candidate.val.candidateId)
    id distinct member Dict.empty

theorem mem_of_recordsByCandidate {id : String} {record : CandidatePersistenceRecord}
    (distinct : DistinctCandidates records)
    (found : (recordsByCandidate records).get? id = some record) :
    record ∈ records ∧ record.val.candidate.val.candidateId = id := by
  by_cases listed : id ∈ records.map fun record => record.val.candidate.val.candidateId
  · obtain ⟨own, member, rfl⟩ := List.mem_map.mp listed
    rw [recordsByCandidate_get? distinct member] at found
    cases found
    exact ⟨member, rfl⟩
  · have nothing : (recordsByCandidate records).get? id = none :=
      Dict.get?_fill_of_not_mem _ _ listed Dict.empty
    rw [nothing] at found
    cases found

/-- A turn counts the receipts of the cohort that were accepted in time. -/
theorem presentedOpportunity_returns (distinct : DistinctCandidates records)
    {receipt : CandidatePresentationReceipt} {turn : Option PresentedOpportunity}
    (ran : presentedOpportunity (recordsByCandidate records) evaluatedAtUtc receipt = .ok turn) :
    (turn.isSome = true ↔ receipt.val.acceptedAtUtc ≤ evaluatedAtUtc ∧ ∃ record ∈ records,
      record.val.candidate.val.candidateId = receipt.val.candidateId) ∧
    ∀ item, turn = some item → item.candidateId = receipt.val.candidateId := by
  unfold presentedOpportunity at ran
  split at ran
  · rename_i nothing
    cases ran
    refine ⟨iff_of_false Bool.false_ne_true ?_, by rintro item ⟨⟩⟩
    rintro ⟨-, record, member, named⟩
    rw [← named, recordsByCandidate_get? distinct member] at nothing
    cases nothing
  · rename_i record found
    split at ran
    · rename_i late
      cases ran
      refine ⟨iff_of_false Bool.false_ne_true fun inTime => ?_, by rintro item ⟨⟩⟩
      exact absurd late (Int.not_lt.mpr inTime.1)
    · split at ran
      · cases ran
      · rename_i inTime _
        obtain ⟨evidenceHash, _, made⟩ := Except.seq_returns.mp ran
        cases made
        refine ⟨iff_of_true rfl ⟨Int.not_lt.mp inTime, record, ?_⟩, by rintro item ⟨⟩; rfl⟩
        exact mem_of_recordsByCandidate distinct found

theorem distinctCandidates_mono {few all : List PresentedOpportunity} (among : few ⊆ all) :
    distinctCandidates few ≤ distinctCandidates all := by
  apply List.Subperm.length_le
  apply List.subperm_of_subset (List.nodup_dedup _)
  intro id listed
  obtain ⟨item, member, named⟩ := List.mem_map.mp (List.mem_dedup.mp listed)
  exact List.mem_dedup.mpr (List.mem_map.mpr ⟨item, among member, named⟩)

/-- The presented candidates are counted once each, and what was presented first or
accepted is among what was presented. -/
theorem presentationMeasures_returns (distinct : DistinctCandidates records)
    {measures : PresentationMeasures}
    (ran : presentationMeasures receipts records evaluatedAtUtc = .ok measures) :
    measures.presentedOpportunityCount = records.countP (isPresented receipts evaluatedAtUtc) ∧
    measures.topRankedPresentedOpportunityCount ≤ measures.presentedOpportunityCount ∧
    measures.topRankedAcceptedOpportunityCount ≤
      measures.topRankedPresentedOpportunityCount := by
  obtain ⟨turns, turned, made⟩ := Except.seq_returns.mp ran
  cases made
  refine ⟨?_, distinctCandidates_mono (List.filter_subset_self _),
    distinctCandidates_mono (List.filter_subset_self _)⟩
  rw [List.countP_eq_length_filter]
  have named : ∀ id, id ∈ (turns.reduceOption.map fun item => item.candidateId) ↔
      id ∈ (records.filter (isPresented receipts evaluatedAtUtc)).map fun record =>
        record.val.candidate.val.candidateId := by
    intro id
    simp only [List.mem_map, List.mem_filter, List.reduceOption_mem_iff, isPresented,
      List.any_eq_true, decide_eq_true_eq]
    constructor
    · rintro ⟨item, counted, rfl⟩
      obtain ⟨receipt, listed, turn⟩ := Except.mem_of_mapM turned _ counted
      obtain ⟨counts, own⟩ := presentedOpportunity_returns distinct turn
      obtain ⟨inTime, record, member, same⟩ := counts.mp rfl
      exact ⟨record, ⟨member, receipt, listed, same.symm, inTime⟩, same.trans (own item rfl).symm⟩
    · rintro ⟨record, ⟨member, receipt, listed, same, inTime⟩, rfl⟩
      obtain ⟨turn, among, made⟩ := Except.each_of_mapM turned receipt listed
      obtain ⟨counts, own⟩ := presentedOpportunity_returns distinct made
      obtain ⟨item, counted⟩ := Option.isSome_iff_exists.mp
        (counts.mpr ⟨inTime, record, member, same.symm⟩)
      exact ⟨item, counted ▸ among, (own item counted).trans same⟩
  have once : ((records.filter (isPresented receipts evaluatedAtUtc)).map fun record =>
      record.val.candidate.val.candidateId).Nodup :=
    List.Nodup.sublist (List.filter_sublist.map _) distinct
  have perm := (List.perm_ext_iff_of_nodup (List.nodup_dedup _) once).mpr fun id =>
    List.mem_dedup.trans (named id)
  rw [distinctCandidates, perm.length_eq, List.length_map]

end Presentations

/-! ## The measures of records -/

section Measured
variable {records : List CandidatePersistenceRecord} {evaluatedAtUtc : DateTime}

theorem effectivenessMeasures_returns {measures : EffectivenessMeasures}
    (ran : effectivenessMeasures records evaluatedAtUtc = .ok measures) :
    measures = totalMeasures records evaluatedAtUtc ∧
      records.forM (validateMeasured evaluatedAtUtc) = .ok () := by
  obtain ⟨_, passed, made⟩ := Except.seq_returns.mp ran
  cases made
  exact ⟨rfl, passed⟩

/-- A record counts one decision at most, and none without a review. -/
theorem latestAction_counts (evaluatedAtUtc : DateTime) (record : CandidatePersistenceRecord) :
    ((latestAction evaluatedAtUtc record).map ReviewAction.value).toList.count
        "approve_for_conversion" +
      ((latestAction evaluatedAtUtc record).map ReviewAction.value).toList.count "reject" ≤
    if isReviewed evaluatedAtUtc record = true then 1 else 0 := by
  unfold latestAction isReviewed
  generalize latestReview (measuredReviews evaluatedAtUtc record) = latest
  cases latest with
  | none => exact le_rfl
  | some decision =>
      simp only [Option.map_some, Option.toList_some, Option.isSome_some, if_true]
      cases decision.val.action <;> decide

theorem decided_le_reviewed (records : List CandidatePersistenceRecord)
    (evaluatedAtUtc : DateTime) :
    (totalMeasures records evaluatedAtUtc).latestReviewActionCounts.get "approve_for_conversion" +
      (totalMeasures records evaluatedAtUtc).latestReviewActionCounts.get "reject" ≤
    (totalMeasures records evaluatedAtUtc).reviewedOpportunityCount := by
  simp only [totalMeasures, Counter.get]
  induction records with
  | nil => exact le_rfl
  | cons record rest ih =>
      have own := latestAction_counts evaluatedAtUtc record
      simp only [List.flatMap_cons, List.count_append, List.countP_cons]
      omega

theorem duplicates_le_suppressed (records : List CandidatePersistenceRecord)
    (evaluatedAtUtc : DateTime) :
    (totalMeasures records evaluatedAtUtc).duplicateSuppressedOpportunityCount ≤
      (totalMeasures records evaluatedAtUtc).suppressedOpportunityCount := by
  apply List.countP_mono_left
  intro record _ duplicate
  unfold isDuplicateSuppressed at duplicate
  unfold isSuppressed
  split at duplicate
  · exact (Bool.and_eq_true_iff.mp duplicate).1
  · rw [beq_iff_eq.mp duplicate]
    rfl

theorem converting_le_intents (records : List CandidatePersistenceRecord)
    (evaluatedAtUtc : DateTime) :
    (totalMeasures records evaluatedAtUtc).conversionOpportunityCount ≤
      (totalMeasures records evaluatedAtUtc).conversionIntentCount := by
  simp only [totalMeasures]
  induction records with
  | nil => exact le_rfl
  | cons record rest ih =>
      have own : (if isConverting evaluatedAtUtc record = true then 1 else 0) ≤
          (measuredIntents evaluatedAtUtc record).length := by
        unfold isConverting
        cases measuredIntents evaluatedAtUtc record <;> simp
      simp only [List.countP_cons, List.map_cons, List.sum_cons]
      omega

/-- Each intent has one of six postures. -/
theorem outcomes_reconcile (records : List CandidatePersistenceRecord)
    (evaluatedAtUtc : DateTime) :
    let outcomes := downstreamOutcomeCounts
      (totalMeasures records evaluatedAtUtc).currentDownstreamOutcomeCounts
    outcomes.accepted + outcomes.rejected + outcomes.failed + outcomes.uncertain =
      (totalMeasures records evaluatedAtUtc).conversionIntentCount := by
  have lengths : (totalMeasures records evaluatedAtUtc).conversionIntentCount =
      (totalMeasures records evaluatedAtUtc).currentDownstreamOutcomeCounts.length := by
    simp only [totalMeasures, List.length_flatMap, outcomePostures, List.length_map]
  have postures : ∀ posture ∈ (totalMeasures records evaluatedAtUtc).currentDownstreamOutcomeCounts,
      posture ∈ ["not_reported", "requested", "accepted", "rejected", "failed", "completed"] := by
    intro posture listed
    obtain ⟨record, -, listed⟩ := List.mem_flatMap.mp listed
    obtain ⟨intent, -, rfl⟩ := List.mem_map.mp listed
    unfold outcomePosture
    split
    · decide
    · rename_i current _
      cases current.val.outcome.val.status <;> decide
  simp only [downstreamOutcomeCounts, Counter.get]
  rw [lengths]
  generalize (totalMeasures records evaluatedAtUtc).currentDownstreamOutcomeCounts = counts
    at postures
  induction counts with
  | nil => rfl
  | cons posture rest ih =>
      have others := ih fun other listed => postures other (List.mem_cons_of_mem _ listed)
      have own := postures posture List.mem_cons_self
      simp only [List.mem_cons, List.not_mem_nil, or_false] at own
      rcases own with rfl | rfl | rfl | rfl | rfl | rfl <;>
        simp only [List.count_cons, List.length_cons, beq_iff_eq, String.reduceEq, if_true,
          if_false, BEq.rfl] <;> omega

end Measured

/-! ## The families -/

/-- What the summary of a family says of its records. -/
def familySummaryOf (receipts : List CandidatePresentationReceipt) (evaluatedAtUtc : DateTime)
    (family : OpportunityFamily) (own : List CandidatePersistenceRecord) :
    OpportunityFamilyEffectivenessRepositorySummary :=
  let measures := totalMeasures own evaluatedAtUtc
  let outcomes := downstreamOutcomeCounts measures.currentDownstreamOutcomeCounts
  { family := family.value
    generatedOpportunityCount := own.length
    presentedOpportunityCount := own.countP (isPresented receipts evaluatedAtUtc)
    reviewedOpportunityCount := measures.reviewedOpportunityCount
    approvedOpportunityCount := measures.latestReviewActionCounts.get "approve_for_conversion"
    rejectedOpportunityCount := measures.latestReviewActionCounts.get "reject"
    suppressedOpportunityCount := measures.suppressedOpportunityCount
    duplicateSuppressedOpportunityCount := measures.duplicateSuppressedOpportunityCount
    feedbackOpportunityCount := measures.feedbackOpportunityCount
    conversionOpportunityCount := measures.conversionOpportunityCount
    conversionIntentCount := measures.conversionIntentCount
    downstreamAcceptedCount := outcomes.accepted
    downstreamRejectedCount := outcomes.rejected
    downstreamFailedCount := outcomes.failed
    downstreamUncertainCount := outcomes.uncertain }

theorem OpportunityFamily.value_injective : Function.Injective OpportunityFamily.value :=
  fun _ _ same => PyEnum.value_injective same

theorem cohortFamilies_nodup (records : List CandidatePersistenceRecord) :
    (cohortFamilies records).Nodup :=
  (Sql.orderBy_perm OpportunityFamily.value _).nodup_iff.mpr (List.nodup_dedup _)

theorem mem_cohortFamilies {records : List CandidatePersistenceRecord}
    {family : OpportunityFamily} :
    family ∈ cohortFamilies records ↔
      ∃ record ∈ records, record.val.candidate.val.family = family := by
  rw [cohortFamilies, Sql.mem_orderBy, List.mem_dedup, List.mem_map]

/-- What adds up over the records adds up over the families. -/
theorem sum_families {number : List CandidatePersistenceRecord → ℕ}
    (additive : Grouping.Additive number) (records : List CandidatePersistenceRecord) :
    ((cohortFamilies records).map fun family => number (familyRecords records family)).sum =
      number records :=
  Grouping.sum_groups additive (fun record => record.val.candidate.val.family)
    (cohortFamilies_nodup records) fun record member =>
      mem_cohortFamilies.mpr ⟨record, member, rfl⟩

theorem DistinctCandidates.family {records : List CandidatePersistenceRecord}
    (distinct : DistinctCandidates records) (family : OpportunityFamily) :
    DistinctCandidates (familyRecords records family) :=
  List.Nodup.sublist (List.filter_sublist.map _) distinct

section Families
variable [Sha256] {snapshot : IdeaRepository} {records : List CandidatePersistenceRecord}
  {evaluatedAtUtc : DateTime}

theorem inMemoryFamilySummary_returns (distinct : DistinctCandidates records)
    {family : OpportunityFamily} {item : OpportunityFamilyEffectivenessRepositorySummary}
    (ran : inMemoryFamilySummary snapshot records evaluatedAtUtc family = .ok item) :
    item = familySummaryOf snapshot.presentationReceipts.values evaluatedAtUtc family
      (familyRecords records family) := by
  obtain ⟨measures, measured, ran⟩ := Except.seq_returns.mp ran
  obtain ⟨presentation, presented, made⟩ := Except.seq_returns.mp ran
  obtain ⟨rfl, -⟩ := effectivenessMeasures_returns measured
  obtain ⟨counted, -⟩ := presentationMeasures_returns (distinct.family family) presented
  cases made
  rw [counted]
  rfl

/-- What the summary of a cohort says of its records. -/
structure SummaryOf (receipts : List CandidatePresentationReceipt)
    (records : List CandidatePersistenceRecord) (evaluatedAtUtc : DateTime)
    (summary : OpportunityEffectivenessRepositorySummary) : Prop where
  generated : summary.generatedOpportunityCount = records.length
  presented : summary.presentedOpportunityCount =
    records.countP (isPresented receipts evaluatedAtUtc)
  topRankedPresented :
    summary.topRankedPresentedOpportunityCount ≤ summary.presentedOpportunityCount
  topRankedAccepted :
    summary.topRankedAcceptedOpportunityCount ≤ summary.topRankedPresentedOpportunityCount
  measured : records.forM (validateMeasured evaluatedAtUtc) = .ok ()
  reviewed : summary.reviewedOpportunityCount =
    (totalMeasures records evaluatedAtUtc).reviewedOpportunityCount
  feedback : summary.feedbackOpportunityCount =
    (totalMeasures records evaluatedAtUtc).feedbackOpportunityCount
  conversion : summary.conversionOpportunityCount =
    (totalMeasures records evaluatedAtUtc).conversionOpportunityCount
  intents : summary.conversionIntentCount =
    (totalMeasures records evaluatedAtUtc).conversionIntentCount
  suppressed : summary.suppressedOpportunityCount =
    (totalMeasures records evaluatedAtUtc).suppressedOpportunityCount
  duplicates : summary.duplicateSuppressedOpportunityCount =
    (totalMeasures records evaluatedAtUtc).duplicateSuppressedOpportunityCount
  actions : summary.latestReviewActionCounts =
    (totalMeasures records evaluatedAtUtc).latestReviewActionCounts
  outcomes : summary.currentDownstreamOutcomeCounts =
    (totalMeasures records evaluatedAtUtc).currentDownstreamOutcomeCounts
  detectionToReview : summary.detectionToReviewSeconds =
    (totalMeasures records evaluatedAtUtc).detectionToReviewSeconds
  approvalToConversion : summary.approvalToConversionSeconds =
    (totalMeasures records evaluatedAtUtc).approvalToConversionSeconds
  familyCounts : summary.familyCounts =
    records.map fun record => record.val.candidate.val.family.value
  families : summary.familyEffectiveness = (cohortFamilies records).map fun family =>
    familySummaryOf receipts evaluatedAtUtc family (familyRecords records family)

theorem inMemoryRepositorySummary_returns (distinct : DistinctCandidates records)
    {summary : OpportunityEffectivenessRepositorySummary}
    (ran : inMemoryRepositorySummary snapshot records evaluatedAtUtc = .ok summary) :
    SummaryOf snapshot.presentationReceipts.values records evaluatedAtUtc summary := by
  obtain ⟨measures, measured, ran⟩ := Except.seq_returns.mp ran
  obtain ⟨presentation, presented, ran⟩ := Except.seq_returns.mp ran
  obtain ⟨families, made, ran⟩ := Except.seq_returns.mp ran
  obtain ⟨rfl, passed⟩ := effectivenessMeasures_returns measured
  obtain ⟨counted, first, accepted⟩ := presentationMeasures_returns distinct presented
  have each : ∀ family ∈ cohortFamilies records,
      inMemoryFamilySummary snapshot records evaluatedAtUtc family =
        .ok (familySummaryOf snapshot.presentationReceipts.values evaluatedAtUtc family
          (familyRecords records family)) := by
    intro family member
    obtain ⟨item, -, own⟩ := Except.each_of_mapM made family member
    rw [own, inMemoryFamilySummary_returns distinct own]
  rw [Except.mapM_ok each] at made
  cases made
  cases ran
  exact
    { generated := rfl, presented := counted, topRankedPresented := first
      topRankedAccepted := accepted, measured := passed, reviewed := rfl, feedback := rfl
      conversion := rfl, intents := rfl, suppressed := rfl, duplicates := rfl, actions := rfl
      outcomes := rfl, detectionToReview := rfl, approvalToConversion := rfl, familyCounts := rfl
      families := rfl }

end Families

/-! ## The validation of the summary -/

section Durations
variable {evaluatedAtUtc : DateTime} {record : CandidatePersistenceRecord}

/-- What the checks of a measured record come to. -/
theorem validateMeasured_passed (passed : validateMeasured evaluatedAtUtc record = .ok ()) :
    (∀ decision ∈ measuredReviews evaluatedAtUtc record,
      record.val.candidate.val.createdAtUtc ≤ decision.val.acceptedAtUtc) ∧
    ∀ pair, approvedConversion evaluatedAtUtc record = some pair →
      pair.1.val.acceptedAtUtc ≤ pair.2.val.acceptedAtUtc := by
  obtain ⟨_, times, ran⟩ := Except.seq_returns.mp passed
  obtain ⟨_, order, -⟩ := Except.seq_returns.mp ran
  have timesPassed := (firstFailure_cons _ _).mp (requireAll_eq_ok.mp times)
  have orderPassed := (firstFailure_cons _ _).mp (requireAll_eq_ok.mp order)
  constructor
  · intro decision member
    have after := List.any_eq_false.mp timesPassed.1 decision.val.acceptedAtUtc (by
      simp only [List.mem_append, List.mem_map]
      exact .inl (.inl (.inl ⟨decision, member, rfl⟩)))
    exact Int.not_lt.mp fun before => after (decide_eq_true before)
  · intro pair converted
    rw [converted] at orderPassed
    exact Int.not_lt.mp (of_decide_eq_false orderPassed.1)

theorem durations_nonneg (passed : validateMeasured evaluatedAtUtc record = .ok ()) :
    (∀ micros, detectionToReview evaluatedAtUtc record = some micros → 0 ≤ micros) ∧
    ∀ micros, approvalToConversion evaluatedAtUtc record = some micros → 0 ≤ micros := by
  obtain ⟨reviews, approved⟩ := validateMeasured_passed passed
  constructor
  · intro micros told
    obtain ⟨decision, latest, rfl⟩ := Option.map_eq_some_iff.mp told
    have member := List.argmax_mem latest
    have after : record.val.candidate.val.createdAtUtc.instant ≤
      decision.val.acceptedAtUtc.instant := reviews decision member
    omega
  · intro micros told
    obtain ⟨pair, converted, rfl⟩ := Option.map_eq_some_iff.mp told
    have after : pair.1.val.acceptedAtUtc.instant ≤ pair.2.val.acceptedAtUtc.instant :=
      approved pair converted
    obtain ⟨approval, intent⟩ := pair
    exact sub_nonneg.mpr after

theorem seconds_nonneg {micros : ℤ} (nonneg : 0 ≤ micros) : 0 ≤ seconds micros := by
  have cast : (0 : ℚ) ≤ micros := by exact_mod_cast nonneg
  unfold seconds
  positivity

theorem measuredSeconds_nonneg {records : List CandidatePersistenceRecord}
    {duration : CandidatePersistenceRecord → Option ℤ}
    (each : ∀ record ∈ records, ∀ micros, duration record = some micros → 0 ≤ micros) :
    ∀ value ∈ (records.filterMap duration).map seconds, 0 ≤ value := by
  intro value listed
  obtain ⟨micros, counted, rfl⟩ := List.mem_map.mp listed
  obtain ⟨record, member, told⟩ := List.mem_filterMap.mp counted
  exact seconds_nonneg (each record member micros told)

end Durations

/-- A family's summary passes the checks of `_validate_family_summary`. -/
theorem validateFamilySummary_passes (receipts : List CandidatePresentationReceipt)
    (evaluatedAtUtc : DateTime) {familyCounts : Counter} {family : OpportunityFamily}
    {own : List CandidatePersistenceRecord}
    (counted : familyCounts.get family.value = own.length) :
    validateFamilySummary familyCounts (familySummaryOf receipts evaluatedAtUtc family own) =
      .ok () := by
  have decided := decided_le_reviewed own evaluatedAtUtc
  have duplicates := duplicates_le_suppressed own evaluatedAtUtc
  have converting := converting_le_intents own evaluatedAtUtc
  have outcomes := outcomes_reconcile own evaluatedAtUtc
  have fits : ∀ p : CandidatePersistenceRecord → Bool, own.countP p ≤ own.length :=
    fun p => List.countP_le_length
  have within : ∀ p : CandidatePersistenceRecord → Bool,
      decide (own.length < own.countP p) = false :=
    fun p => decide_eq_false (Nat.not_lt.mpr (fits p))
  refine requireAll_eq_ok.mpr ?_
  simp only [firstFailure_cons, firstFailure_nil, List.any_cons, List.any_nil, Bool.or_false,
    Bool.or_eq_false_iff, and_true]
  exact ⟨decide_eq_false (not_not.mpr counted.symm),
    ⟨within _, within _, within _, within _, within _, within _⟩,
    decide_eq_false (Nat.not_lt.mpr decided), decide_eq_false (Nat.not_lt.mpr duplicates),
    decide_eq_false (Nat.not_lt.mpr converting), decide_eq_false (not_not.mpr outcomes)⟩

section Validation
variable {receipts : List CandidatePresentationReceipt} {records : List CandidatePersistenceRecord}
  {evaluatedAtUtc : DateTime} {summary : OpportunityEffectivenessRepositorySummary}

theorem SummaryOf.familyCount (told : SummaryOf receipts records evaluatedAtUtc summary)
    (family : OpportunityFamily) :
    summary.familyCounts.get family.value = (familyRecords records family).length := by
  rw [told.familyCounts, Counter.get, List.count, List.countP_map, familyRecords,
    ← List.countP_eq_length_filter]
  apply List.countP_congr
  intro record _
  simp only [Function.comp_apply, beq_iff_eq, decide_eq_true_eq]
  exact OpportunityFamily.value_injective.eq_iff

/-- A count of the families' summaries, summed, is the count of the cohort. -/
theorem SummaryOf.sum (told : SummaryOf receipts records evaluatedAtUtc summary)
    {count : OpportunityFamilyEffectivenessRepositorySummary → ℕ}
    {number : List CandidatePersistenceRecord → ℕ} (additive : Grouping.Additive number)
    (counts : ∀ family own,
      count (familySummaryOf receipts evaluatedAtUtc family own) = number own) :
    number records = (summary.familyEffectiveness.map count).sum := by
  rw [told.families, List.map_map, ← sum_families additive records]
  congr 1
  exact List.map_congr_left fun family _ => (counts family _).symm

/-- Each overall count is the sum of the counts of the families. -/
theorem SummaryOf.totals (told : SummaryOf receipts records evaluatedAtUtc summary) :
    ∀ total ∈ familyTotals summary,
      total.2.1 = (summary.familyEffectiveness.map total.2.2).sum := by
  open Grouping.Additive in
  simp only [familyTotals, List.forall_mem_cons, downstreamOutcomeCounts]
  rw [told.generated, told.presented, told.reviewed, told.feedback, told.conversion, told.intents,
    told.suppressed, told.duplicates, told.actions, told.outcomes]
  exact
    ⟨told.sum length fun _ _ => rfl, told.sum (countP _) fun _ _ => rfl,
      told.sum (countP _) fun _ _ => rfl, told.sum (count _ _) fun _ _ => rfl,
      told.sum (count _ _) fun _ _ => rfl, told.sum (countP _) fun _ _ => rfl,
      told.sum (countP _) fun _ _ => rfl, told.sum (countP _) fun _ _ => rfl,
      told.sum (countP _) fun _ _ => rfl, told.sum (Grouping.Additive.sum _) fun _ _ => rfl,
      told.sum ((count _ _).add (count _ _)) fun _ _ => rfl, told.sum (count _ _) fun _ _ => rfl,
      told.sum (count _ _) fun _ _ => rfl,
      told.sum ((count _ _).add (count _ _)) fun _ _ => rfl, List.forall_mem_nil _⟩

theorem SummaryOf.familyEffectiveness_valid
    (told : SummaryOf receipts records evaluatedAtUtc summary) :
    validateFamilyEffectiveness summary = .ok () := by
  have named : (summary.familyEffectiveness.map fun item => item.family) =
      (cohortFamilies records).map OpportunityFamily.value := by
    rw [told.families, List.map_map]
    rfl
  have same : ∀ family, family ∈ (cohortFamilies records).map OpportunityFamily.value ↔
      family ∈ summary.familyCounts := by
    intro family
    rw [told.familyCounts]
    constructor
    · intro listed
      obtain ⟨own, member, rfl⟩ := List.mem_map.mp listed
      obtain ⟨record, among, rfl⟩ := mem_cohortFamilies.mp member
      exact List.mem_map.mpr ⟨record, among, rfl⟩
    · intro listed
      obtain ⟨record, among, rfl⟩ := List.mem_map.mp listed
      exact List.mem_map_of_mem (mem_cohortFamilies.mpr ⟨record, among, rfl⟩)
  refine Except.seq_returns.mpr ⟨(), requireAll_eq_ok.mpr ?_,
    Except.seq_returns.mpr ⟨⟨⟩, Except.forM_ok_iff.mpr ?_, requireAll_eq_ok.mpr ?_⟩⟩
  · simp only [firstFailure_cons, firstFailure_nil, and_true, Bool.not_eq_false',
      decide_eq_true_eq, named]
    exact ⟨fun family listed => (same family).mp listed,
      fun family listed => (same family).mpr listed,
      (cohortFamilies_nodup records).map OpportunityFamily.value_injective⟩
  · rw [told.families]
    intro item listed
    obtain ⟨family, -, rfl⟩ := List.mem_map.mp listed
    exact validateFamilySummary_passes receipts evaluatedAtUtc (told.familyCount family)
  · simpa using fun name expected count listed => told.totals (name, expected, count) listed

theorem SummaryOf.valid (told : SummaryOf receipts records evaluatedAtUtc summary)
    {maxOpportunities : Int} (fits : (records.length : Int) ≤ maxOpportunities) :
    validateRepositorySummary summary maxOpportunities = .ok () := by
  refine Except.seq_returns.mpr ⟨(), requireAll_eq_ok.mpr ?_,
    Except.seq_returns.mpr ⟨(), told.familyEffectiveness_valid, requireAll_eq_ok.mpr ?_⟩⟩
  · have presented : summary.presentedOpportunityCount ≤ summary.generatedOpportunityCount := by
      rw [told.presented, told.generated]
      exact List.countP_le_length
    have generated := told.generated
    simp only [firstFailure_cons, firstFailure_nil, decide_eq_false_iff_not, not_lt, and_true]
    exact ⟨by omega, told.topRankedPresented, told.topRankedAccepted, presented⟩
  · have each := Except.forM_ok_iff.mp told.measured
    simp only [firstFailure_cons, firstFailure_nil, and_true]
    rw [List.any_eq_false]
    intro value listed
    rw [told.detectionToReview, told.approvalToConversion] at listed
    have nonneg : 0 ≤ value := by
      rcases List.mem_append.mp listed with review | conversion
      · exact measuredSeconds_nonneg
          (fun record member => (durations_nonneg (each record member)).1) value review
      · exact measuredSeconds_nonneg
          (fun record member => (durations_nonneg (each record member)).2) value conversion
    simpa using nonneg

end Validation

end LotusIdea

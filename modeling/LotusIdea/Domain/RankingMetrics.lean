import LotusIdea.Domain.RankingEvaluation
import LotusIdea.Foundation.Raising
import Mathlib

/-!
# Normalized ranking metrics

Every rate of a ranking evaluation lies between zero and one: the gain of a ranking
is at most that of its best order, the judged opportunities are some of the evaluated
ones, and a mean of such rates is one again.  Each evaluation of a snapshot is ready
with both of its metrics or incomplete without them, so the averages never lack one.
-/

set_option autoImplicit false

namespace LotusIdea

/-! ## Rates between zero and one -/

/-- Between zero and one. -/
structure UnitRate (rate : ℚ) : Prop where
  nonneg : 0 ≤ rate
  le_one : rate ≤ 1

theorem rounded_one : rounded 1 = 1 := by
  have small : 1 < 10 ^ contextDigits := by decide
  simpa [rounded] using DecimalContext.round_exact small 0

theorem rounded_unit {x : ℚ} (unit : UnitRate x) : UnitRate (rounded x) := by
  refine ⟨DecimalContext.round_nonneg unit.nonneg, ?_⟩
  rw [← rounded_one]
  exact DecimalContext.round_mono unit.nonneg unit.le_one (by decide)

section Rates
variable {K : Type} [Field K] [LinearOrder K] [IsStrictOrderedRing K] [FloorRing K]

theorem rateSteps_mem {value : K} (nonneg : 0 ≤ value) (le_one : value ≤ 1) :
    0 ≤ rateSteps value ∧ rateSteps value ≤ 10 ^ 6 := by
  rw [rateSteps, if_pos nonneg]
  constructor
  · have whole : (0 : K) ≤ value * 10 ^ 6 + 1 / 2 := by positivity
    exact Int.floor_nonneg.mpr whole
  · have below : value * 10 ^ 6 + 1 / 2 < ((10 ^ 6 + 1 : ℤ) : K) := by
      push_cast
      have scaled : value * 10 ^ 6 ≤ 1 * 10 ^ 6 := by gcongr
      linarith
    exact Int.lt_add_one_iff.mp (Int.floor_lt.mpr below)

/-- A rate between zero and one is quantized to one. -/
theorem quantizeRate_unit {value : K} (nonneg : 0 ≤ value) (le_one : value ≤ 1) :
    ∃ rate, quantizeRate value = .ok rate ∧ UnitRate rate := by
  obtain ⟨low, high⟩ := rateSteps_mem nonneg le_one
  have small : ¬ 10 ^ contextDigits ≤ (rateSteps value).natAbs := by
    have bounded : (rateSteps value).natAbs ≤ 10 ^ 6 := by omega
    have room : 10 ^ 6 < 10 ^ contextDigits := by decide
    omega
  refine ⟨rateSteps value / 10 ^ 6, ?_, ?_, ?_⟩
  · rw [quantizeRate, validate_eq_ok.mpr (by simp [small])]
    rfl
  · have whole : (0 : ℚ) ≤ rateSteps value := by exact_mod_cast low
    positivity
  · rw [div_le_one (by positivity)]
    exact_mod_cast high

end Rates

theorem ratio_unit {numerator denominator : ℕ} (some : denominator ≠ 0)
    (le : numerator ≤ denominator) :
    ∃ rate, ratio numerator denominator = .ok rate ∧ UnitRate rate := by
  have positive : (0 : ℚ) < denominator := by
    exact_mod_cast Nat.pos_of_ne_zero some
  have unit : UnitRate ((numerator : ℚ) / denominator) := by
    refine ⟨by positivity, ?_⟩
    rw [div_le_one positive]
    exact_mod_cast le
  obtain ⟨rate, ran, between⟩ :=
    quantizeRate_unit (rounded_unit unit).nonneg (rounded_unit unit).le_one
  refine ⟨rate, ?_, between⟩
  rw [ratio, validate_eq_ok.mpr (by simp [some])]
  exact ran

theorem sum_unit {values : List ℚ} (unit : ∀ value ∈ values, UnitRate value) :
    0 ≤ values.sum ∧ values.sum ≤ values.length := by
  induction values with
  | nil => simp
  | cons value rest ih =>
      obtain ⟨nonneg, le⟩ := ih fun other listed => unit other (List.mem_cons_of_mem _ listed)
      have own := unit value List.mem_cons_self
      rw [List.sum_cons, List.length_cons]
      push_cast
      exact ⟨add_nonneg own.nonneg nonneg, by linarith [own.le_one]⟩

/-- A mean of rates that are all there. -/
theorem meanReadyMetric_unit {values : List (Option ℚ)}
    (each : ∀ value ∈ values, ∃ rate, value = some rate ∧ UnitRate rate) :
    ∃ mean, meanReadyMetric values = .ok mean ∧ ∀ rate ∈ mean, UnitRate rate := by
  unfold meanReadyMetric
  cases empty : values.isEmpty with
  | true => exact ⟨none, rfl, fun rate none => nomatch none⟩
  | false =>
      have complete : values.any Option.isNone = false := by
        rw [List.any_eq_false]
        intro value listed
        obtain ⟨rate, rfl, -⟩ := each value listed
        simp
      have rates : ∀ rate ∈ values.filterMap id, UnitRate rate := by
        intro rate listed
        obtain ⟨value, member, same⟩ := List.mem_filterMap.mp listed
        obtain ⟨own, rfl, unit⟩ := each value member
        cases same
        exact unit
      have length : (values.filterMap id).length ≤ values.length := List.length_filterMap_le _ _
      have positive : (0 : ℚ) < values.length := by
        have nonempty : values ≠ [] := by simpa using empty
        exact_mod_cast List.length_pos_of_ne_nil nonempty
      obtain ⟨nonneg, bounded⟩ := sum_unit rates
      have unit : UnitRate ((values.filterMap id).sum / values.length) := by
        refine ⟨by positivity, ?_⟩
        rw [div_le_one positive]
        exact bounded.trans (by exact_mod_cast length)
      obtain ⟨rate, ran, between⟩ :=
        quantizeRate_unit (rounded_unit unit).nonneg (rounded_unit unit).le_one
      refine ⟨some rate, ?_, ?_⟩
      · rw [if_neg Bool.false_ne_true, validate_eq_ok.mpr (by simp [complete]), ran]
        rfl
      · intro own same
        cases same
        exact between

/-! ## Evaluations of a snapshot -/

/-- What an evaluation of a cutoff carries. -/
structure CutoffSound (item : RankingCutoffEvaluation) : Prop where
  deep : item.evaluatedDepth ≠ 0
  judged : item.judgedOpportunityCount ≤ item.evaluatedDepth
  precise : item.status = .ready → ∃ rate, item.precisionAtK = some rate ∧ UnitRate rate
  gained : item.status = .ready → ∃ rate, item.ndcgAtK = some rate ∧ UnitRate rate

section Evaluations
variable {K : Type} [Field K] [LinearOrder K] [IsStrictOrderedRing K] [FloorRing K]
  {discount : DiscountedGain.Discount K}

theorem ndcgAtK_unit (relevance : List RankingRelevanceGrade) :
    ∃ rate, ndcgAtK discount relevance = .ok rate ∧ UnitRate rate :=
  quantizeRate_unit (DiscountedGain.normalized_nonneg relevance)
    (DiscountedGain.normalized_le_one relevance)

theorem precisionAtK_unit {relevance : List RankingRelevanceGrade} (some : relevance.length ≠ 0) :
    ∃ rate, precisionAtK relevance = .ok rate ∧ UnitRate rate :=
  ratio_unit some List.countP_le_length

theorem CutoffSound.of_unready {item : RankingCutoffEvaluation} (deep : item.evaluatedDepth ≠ 0)
    (judged : item.judgedOpportunityCount ≤ item.evaluatedDepth) (unready : item.status ≠ .ready) :
    CutoffSound item :=
  ⟨deep, judged, fun ready => absurd ready unready, fun ready => absurd ready unready⟩

/-- At a positive depth a cutoff is evaluated, and soundly. -/
theorem evaluateCutoff_sound (byRank : Dict ℕ RankedOpportunityJudgment) {cutoff visible : ℕ}
    (cut : cutoff ≠ 0) (seen : visible ≠ 0) :
    ∃ item, evaluateCutoff discount byRank cutoff visible = .ok item ∧ CutoffSound item ∧
      item.cutoff = cutoff := by
  have deep : min cutoff visible ≠ 0 := by omega
  have bounded : ((List.range' 1 (min cutoff visible)).filterMap byRank.get?).length ≤
      min cutoff visible := by
    simpa using List.length_filterMap_le byRank.get? (List.range' 1 (min cutoff visible))
  simp only [evaluateCutoff]
  generalize (List.range' 1 (min cutoff visible)).filterMap byRank.get? = observed at bounded
  have judged : (observed.filterMap fun judgment => judgment.val.relevanceGrade).length ≤
      min cutoff visible := (List.length_filterMap_le _ _).trans bounded
  generalize (observed.filterMap fun judgment => judgment.val.relevanceGrade) = relevance at judged
  obtain ⟨coverage, covered, -⟩ := ratio_unit deep judged
  rw [covered]
  by_cases presented : observed.length ≠ min cutoff visible
  · simp only [bind, Except.bind, if_pos presented]
    exact ⟨_, rfl, CutoffSound.of_unready deep judged (by simp), rfl⟩
  by_cases complete : relevance.length ≠ min cutoff visible
  · simp only [bind, Except.bind, if_neg presented, if_pos complete]
    exact ⟨_, rfl, CutoffSound.of_unready deep judged (by simp), rfl⟩
  have some : relevance.length ≠ 0 := by omega
  obtain ⟨precision, precise, preciseUnit⟩ := precisionAtK_unit some
  obtain ⟨gain, gained, gainUnit⟩ : ∃ rate, ndcgAtK discount relevance = .ok rate ∧
    UnitRate rate := ndcgAtK_unit relevance
  simp only [bind, Except.bind, if_neg presented, if_neg complete, precise, gained]
  exact ⟨_, rfl, ⟨deep, judged, fun _ => ⟨precision, rfl, preciseUnit⟩,
    fun _ => ⟨gain, rfl, gainUnit⟩⟩, rfl⟩

/-- Evaluations that the facts of presentations give. -/
def Presented (discount : DiscountedGain.Discount K)
    (evaluations : List RankingQueueSnapshotEvaluation) : Prop :=
  ∀ snapshot ∈ evaluations, ∃ facts cutoffs results,
    evaluateRankingPresentations discount facts cutoffs = .ok results ∧ snapshot ∈ results

theorem validateCutoffs_positive {cutoffs : List ℕ} (passed : validateCutoffs cutoffs = .ok ()) :
    ∀ cutoff ∈ cutoffs, cutoff ≠ 0 := by
  have valid := validate_eq_ok.mp passed
  simp only [firstFailure_cons, List.any_eq_false] at valid
  intro cutoff listed zero
  exact valid.2.1 cutoff listed (by simpa using zero)

theorem evaluateRankingSnapshot_sound {judgments : List RankedOpportunityJudgment}
    {visible : ℕ} {cutoffs : List ℕ} {evaluation : RankingSnapshotEvaluation}
    (ran : evaluateRankingSnapshot discount judgments visible cutoffs = .ok evaluation) :
    ∀ item ∈ evaluation.cutoffEvaluations, CutoffSound item := by
  simp only [evaluateRankingSnapshot] at ran
  obtain ⟨_, seen, ran⟩ := Except.seq_returns.mp ran
  obtain ⟨_, cut, ran⟩ := Except.seq_returns.mp ran
  obtain ⟨byRank, _, ran⟩ := Except.seq_returns.mp ran
  obtain ⟨items, evaluated, ran⟩ := Except.seq_returns.mp ran
  cases ran
  have some : visible ≠ 0 := by
    have valid := validate_eq_ok.mp seen
    simp only [requireVisibleOpportunityCount, firstFailure_cons] at valid
    rintro rfl
    simp at valid
  intro item listed
  obtain ⟨cutoff, member, itemRan⟩ := Except.mem_of_mapM evaluated item listed
  obtain ⟨own, ownRan, sound, -⟩ : ∃ own, evaluateCutoff discount byRank cutoff visible = .ok own ∧
      CutoffSound own ∧ own.cutoff = cutoff :=
    evaluateCutoff_sound byRank (validateCutoffs_positive cut cutoff member) some
  cases itemRan.symm.trans ownRan
  exact sound

/-- A presented evaluation is that of the facts of one snapshot. -/
theorem presented_evaluated {evaluations : List RankingQueueSnapshotEvaluation}
    (presented : Presented discount evaluations) {snapshot : RankingQueueSnapshotEvaluation}
    (listed : snapshot ∈ evaluations) :
    ∃ cutoffs digest facts, evaluateQueueSnapshot discount cutoffs digest facts = .ok snapshot := by
  obtain ⟨facts, cutoffs, results, ran, member⟩ := presented snapshot listed
  obtain ⟨digest, -, snapshotRan⟩ := Except.mem_of_mapM ran snapshot member
  exact ⟨cutoffs, digest, _, snapshotRan⟩

theorem presented_sound {evaluations : List RankingQueueSnapshotEvaluation}
    (presented : Presented discount evaluations) {snapshot : RankingQueueSnapshotEvaluation}
    (listed : snapshot ∈ evaluations) :
    ∀ item ∈ snapshot.evaluation.cutoffEvaluations, CutoffSound item := by
  obtain ⟨cutoffs, digest, facts, ran⟩ := presented_evaluated presented listed
  cases facts with
  | nil => cases ran
  | cons authority rest =>
      simp only [evaluateQueueSnapshot] at ran
      obtain ⟨_, _, ran⟩ := Except.seq_returns.mp ran
      obtain ⟨evaluation, evaluated, ran⟩ := Except.seq_returns.mp ran
      cases ran
      exact evaluateRankingSnapshot_sound evaluated

end Evaluations

/-! ## Averages of the evaluations -/

/-- The counts add up and every rate lies between zero and one. -/
structure AggregateNormalized (a : RankingCutoffAggregate) : Prop where
  counts : a.snapshotCount = a.readySnapshotCount + a.incompletePresentationSnapshotCount +
    a.incompleteJudgmentSnapshotCount
  coverage : ∀ rate ∈ a.judgmentCoverage, UnitRate rate
  precision : ∀ rate ∈ a.meanPrecisionAtK, UnitRate rate
  gain : ∀ rate ∈ a.meanNdcgAtK, UnitRate rate

/-- Each evaluation has one of the three statuses. -/
theorem length_by_status (items : List RankingCutoffEvaluation) :
    items.length = (items.filter fun item => item.status = .ready).length +
      items.countP (fun item => item.status = .incompletePresentation) +
      items.countP (fun item => item.status = .incompleteJudgments) := by
  induction items with
  | nil => rfl
  | cons item rest ih =>
      cases status : item.status <;> simp [status, ih] <;> omega

theorem judged_le_evaluated {items : List RankingCutoffEvaluation}
    (sound : ∀ item ∈ items, CutoffSound item) :
    (items.map fun item => item.judgedOpportunityCount).sum ≤
      (items.map fun item => item.evaluatedDepth).sum := by
  induction items with
  | nil => exact le_rfl
  | cons item rest ih =>
      have own := (sound item List.mem_cons_self).judged
      have further := ih fun other listed => sound other (List.mem_cons_of_mem _ listed)
      simp only [List.map_cons, List.sum_cons]
      omega

theorem judgmentCoverage_unit {judgedCount evaluatedCount : ℕ}
    (le : judgedCount ≤ evaluatedCount) :
    ∃ coverage, judgmentCoverage judgedCount evaluatedCount = .ok coverage ∧
      ∀ rate ∈ coverage, UnitRate rate := by
  unfold judgmentCoverage
  by_cases none : evaluatedCount = 0
  · rw [if_pos none]
    exact ⟨Option.none, rfl, fun rate absent => (nomatch absent)⟩
  · obtain ⟨rate, ran, unit⟩ := ratio_unit none le
    rw [if_neg none, ran]
    refine ⟨some rate, rfl, ?_⟩
    intro own same
    cases same
    exact unit

theorem aggregateCutoff_normalized {evaluations : List RankingQueueSnapshotEvaluation}
    (sound : ∀ snapshot ∈ evaluations, ∀ item ∈ snapshot.evaluation.cutoffEvaluations,
      CutoffSound item) (minimum cutoffValue : ℕ) :
    ∃ a, aggregateCutoff evaluations minimum cutoffValue = .ok a ∧ AggregateNormalized a := by
  have each : ∀ item ∈ (evaluations.flatMap fun snapshot =>
      snapshot.evaluation.cutoffEvaluations).filter (fun item => item.cutoff = cutoffValue),
      CutoffSound item := by
    intro item listed
    obtain ⟨snapshot, member, held⟩ := List.mem_flatMap.mp (List.mem_filter.mp listed).1
    exact sound snapshot member item held
  simp only [aggregateCutoff]
  generalize (evaluations.flatMap fun snapshot =>
    snapshot.evaluation.cutoffEvaluations).filter (fun item => item.cutoff = cutoffValue) = items
    at each
  have ready : ∀ item ∈ items.filter (fun item => item.status = .ready),
      CutoffSound item ∧ item.status = .ready := by
    intro item listed
    obtain ⟨member, status⟩ := List.mem_filter.mp listed
    exact ⟨each item member, of_decide_eq_true status⟩
  have precise : ∀ value ∈ (items.filter fun item => item.status = .ready).map
      (fun item => item.precisionAtK), ∃ rate, value = some rate ∧ UnitRate rate := by
    intro value listed
    obtain ⟨item, member, rfl⟩ := List.mem_map.mp listed
    exact (ready item member).1.precise (ready item member).2
  have gained : ∀ value ∈ (items.filter fun item => item.status = .ready).map
      (fun item => item.ndcgAtK), ∃ rate, value = some rate ∧ UnitRate rate := by
    intro value listed
    obtain ⟨item, member, rfl⟩ := List.mem_map.mp listed
    exact (ready item member).1.gained (ready item member).2
  obtain ⟨precision, precisionRan, precisionUnit⟩ := meanReadyMetric_unit precise
  obtain ⟨gain, gainRan, gainUnit⟩ := meanReadyMetric_unit gained
  obtain ⟨coverage, covered, coverageUnit⟩ := judgmentCoverage_unit (judged_le_evaluated each)
  rw [covered, precisionRan, gainRan]
  exact ⟨_, rfl, length_by_status items, coverageUnit, precisionUnit, gainUnit⟩

section Metrics
variable {K : Type} [Field K] [LinearOrder K] [IsStrictOrderedRing K] [FloorRing K]

/-- What the discounted gain of a list of grades says of it. -/
structure GainNormalized (discount : DiscountedGain.Discount K)
    (relevance : List RankingRelevanceGrade) : Prop where
  nonneg : 0 ≤ ndcg discount relevance
  le_one : ndcg discount relevance ≤ 1
  best : ndcg discount relevance = 1 ↔
    relevance.Pairwise (· ≥ ·) ∧ ¬ ∀ grade ∈ relevance, grade = .notUseful
  worst : ndcg discount relevance = 0 ↔ ∀ grade ∈ relevance, grade = .notUseful

theorem relevanceGain_eq_zero {grade : RankingRelevanceGrade} :
    (relevanceGain : DiscountedGain.Gain RankingRelevanceGrade K).value grade = 0 ↔
      grade = .notUseful := by
  rw [← RankingRelevanceGrade.value_eq_zero, relevanceGain, sub_eq_zero]
  constructor
  · intro one
    by_contra some
    exact (one_lt_pow₀ one_lt_two some).ne one.symm
  · intro zero
    rw [zero, pow_zero]

theorem ndcg_normalized (discount : DiscountedGain.Discount K)
    (relevance : List RankingRelevanceGrade) : GainNormalized discount relevance where
  nonneg := DiscountedGain.normalized_nonneg relevance
  le_one := DiscountedGain.normalized_le_one relevance
  best := by
    simp only [ndcg, DiscountedGain.normalized_eq_one, relevanceGain_eq_zero]
  worst := by
    simp only [ndcg, DiscountedGain.normalized_eq_zero, relevanceGain_eq_zero]

/-- The discounted gain of every list of grades is normalized and never falls when
the better of two neighbours moves ahead; the averages of all evaluations are there
and normalized. -/
theorem ranking_metrics_normalized (discount : DiscountedGain.Discount K) :
    (∀ relevance, GainNormalized discount relevance) ∧
    (∀ front back lower higher, lower ≤ higher →
      ndcg discount (front ++ lower :: higher :: back) ≤
        ndcg discount (front ++ higher :: lower :: back)) ∧
    ∀ evaluations, Presented discount evaluations → ∀ minimum, minimum ≠ 0 →
      ∃ aggregates, aggregateRankingEvaluations evaluations minimum = .ok aggregates ∧
        ∀ a ∈ aggregates, AggregateNormalized a := by
  refine ⟨ndcg_normalized discount, ?_, ?_⟩
  · intro front back lower higher le
    exact DiscountedGain.normalized_exchange_le front back le
  · intro evaluations presented minimum positive
    have sound : ∀ snapshot ∈ evaluations, ∀ item ∈ snapshot.evaluation.cutoffEvaluations,
        CutoffSound item := fun snapshot listed => presented_sound presented listed
    obtain ⟨aggregates, ran, -, normalized⟩ := Except.mapM_returns
      (f := aggregateCutoff evaluations minimum) fun cutoffValue _ =>
        aggregateCutoff_normalized sound minimum cutoffValue
    refine ⟨aggregates, ?_, normalized⟩
    rw [aggregateRankingEvaluations, validate_eq_ok.mpr (by simp [positive])]
    exact ran

end Metrics

/-! ## Discounts -/

/-- The discount of the source, `ln (rank + 1) / ln 2`. -/
noncomputable def logarithmicDiscount : DiscountedGain.Discount ℝ where
  divisor rank := Real.log (rank + 1) / Real.log (2 : ℕ)
  positive rank ranked := by
    have base : 0 < Real.log (2 : ℕ) := Real.log_pos (by norm_num)
    have more : (1 : ℝ) < rank + 1 := by
      have cast : (0 : ℝ) < rank := by exact_mod_cast ranked
      linarith
    exact div_pos (Real.log_pos more) base
  increasing rank ranked := by
    have base : 0 < Real.log (2 : ℕ) := Real.log_pos (by norm_num)
    have less : Real.log ((rank : ℝ) + 1) < Real.log ((rank + 1 : ℕ) + 1) := by
      apply Real.log_lt_log (by positivity)
      push_cast
      linarith
    exact div_lt_div_of_pos_right less base

/-- A discount that can be computed with: the rank itself. -/
def rankDiscount : DiscountedGain.Discount ℚ where
  divisor rank := rank
  positive rank ranked := by exact_mod_cast ranked
  increasing rank _ := by
    push_cast
    linarith

def sampleFact (digest identity : String) (rank visible : ℕ)
    (grade : Option RankingRelevanceGrade) : Except PyError RankingPresentationFact := do
  let judgment ← Checked.make RankedOpportunityJudgmentFields.checks
    { rank := rank, relevanceGrade := grade }
  Checked.make RankingPresentationFactFields.checks
    { queueSnapshotDigest := digest, tenantId := "tenant-a", presentedAtUtc := .utc 10
      visibleOpportunityCount := visible, queuePolicyVersion := "queue-v1"
      rankingPolicyVersion := "ranking-v1", surface := "workbench", producer := "lotus-workbench"
      economicIdentityId := identity, judgment := judgment }

/-- Two judged opportunities, the better one second. -/
def sampleEvaluations : Except PyError (List RankingQueueSnapshotEvaluation) := do
  let first ← sampleFact "snapshot-1" "idea-1" 1 2 (some .useful)
  let second ← sampleFact "snapshot-1" "idea-2" 2 2 (some .downstreamAccepted)
  evaluateRankingPresentations rankDiscount [first, second] [1, 3]

theorem sampleEvaluations_returned : sampleEvaluations.toOption.isSome = true := by
  decide +kernel

/-- The averages of one snapshot. -/
theorem ranking_metrics_normalized_sample : ∃ evaluations aggregates,
    sampleEvaluations = .ok evaluations ∧
    aggregateRankingEvaluations evaluations minimumReadySnapshotCount = .ok aggregates ∧
    ∀ a ∈ aggregates, AggregateNormalized a := by
  cases ran : sampleEvaluations with
  | error raised =>
      have returned := sampleEvaluations_returned
      rw [ran] at returned
      cases returned
  | ok evaluations =>
      have presented : Presented rankDiscount evaluations := by
        intro snapshot listed
        obtain ⟨first, -, evaluated⟩ := Except.seq_returns.mp ran
        obtain ⟨second, -, evaluated⟩ := Except.seq_returns.mp evaluated
        exact ⟨[first, second], [1, 3], evaluations, evaluated, listed⟩
      obtain ⟨-, -, averaged⟩ := ranking_metrics_normalized rankDiscount
      obtain ⟨aggregates, aggregated, normalized⟩ :=
        averaged evaluations presented minimumReadySnapshotCount (by decide)
      exact ⟨evaluations, aggregates, rfl, aggregated, normalized⟩

end LotusIdea

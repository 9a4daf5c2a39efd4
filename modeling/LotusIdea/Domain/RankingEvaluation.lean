import LotusIdea.Domain.ReviewAuthority
import LotusIdea.Domain.Scoring
import LotusIdea.Foundation.DiscountedGain
import LotusIdea.Foundation.Grouping

/-!
# Ranking evaluation

`domain/ranking_evaluation.py`: how well the queue ranked the opportunities that it
showed.  The facts of one queue snapshot give, for each cutoff, the share of judged
opportunities and, when all of them are judged, precision and discounted gain; the
evaluations of many snapshots are averaged.  The logarithm of a rank is a parameter:
a positive divisor that grows with the rank, over exact numbers.  Values of six
decimals are added exactly, as the context does for up to 10²¹ of them.
-/

set_option autoImplicit false

namespace LotusIdea

inductive RankingRelevanceGrade where
  | notUseful
  | useful
  | approvedForConversion
  | downstreamAccepted
  deriving DecidableEq, Repr

namespace RankingRelevanceGrade

def value : RankingRelevanceGrade → ℕ
  | notUseful => 0
  | useful => 1
  | approvedForConversion => 2
  | downstreamAccepted => 3

theorem value_injective : Function.Injective value := by
  intro a b same
  cases a <;> cases b <;> first | rfl | cases same

instance : LinearOrder RankingRelevanceGrade := LinearOrder.lift' value value_injective

theorem lt_iff {a b : RankingRelevanceGrade} : a < b ↔ a.value < b.value := Iff.rfl

theorem value_eq_zero {grade : RankingRelevanceGrade} : grade.value = 0 ↔ grade = notUseful := by
  cases grade <;> simp [value]

end RankingRelevanceGrade

inductive RankingCutoffStatus where
  | ready
  | incompletePresentation
  | incompleteJudgments
  deriving DecidableEq, Repr

inductive RankingMetricSupportStatus where
  | unavailable
  | insufficientSupport
  | ready
  deriving DecidableEq, Repr

/-! ## Facts -/

structure RankedOpportunityJudgmentFields where
  rank : ℕ
  relevanceGrade : Option RankingRelevanceGrade
  deriving DecidableEq

def RankedOpportunityJudgmentFields.checks (j : RankedOpportunityJudgmentFields) :
    List (Bool × PyError) :=
  [(decide (j.rank = 0), .valueError "rank must be a positive integer")]

abbrev RankedOpportunityJudgment := Checked RankedOpportunityJudgmentFields.checks

/-- `_validate_visible_opportunity_count`. -/
def requireVisibleOpportunityCount (value : ℕ) : Bool × PyError :=
  (!(decide (1 ≤ value) && decide ((value : ℤ) ≤ maxPresentedCandidateCount)),
    .valueError "visible_opportunity_count must be between 1 and 100")

structure RankingPresentationFactFields where
  queueSnapshotDigest : String
  tenantId : String
  presentedAtUtc : DateTime
  visibleOpportunityCount : ℕ
  queuePolicyVersion : String
  rankingPolicyVersion : String
  surface : String
  producer : String
  economicIdentityId : String
  judgment : RankedOpportunityJudgment

def RankingPresentationFactFields.checks (f : RankingPresentationFactFields) :
    List (Bool × PyError) :=
  [requireText f.queueSnapshotDigest "queue_snapshot_digest",
   requireText f.tenantId "tenant_id",
   requireText f.queuePolicyVersion "queue_policy_version",
   requireText f.rankingPolicyVersion "ranking_policy_version",
   requireText f.surface "surface",
   requireText f.producer "producer",
   requireText f.economicIdentityId "economic_identity_id",
   (f.presentedAtUtc.isNaive, .valueError "presented_at_utc must be timezone-aware"),
   requireVisibleOpportunityCount f.visibleOpportunityCount]

abbrev RankingPresentationFact := Checked RankingPresentationFactFields.checks

/-! ## Evaluations -/

structure RankingCutoffEvaluation where
  cutoff : ℕ
  evaluatedDepth : ℕ
  status : RankingCutoffStatus
  observedOpportunityCount : ℕ
  judgedOpportunityCount : ℕ
  unjudgedOpportunityCount : ℕ
  judgmentCoverage : ℚ
  precisionAtK : Option ℚ
  ndcgAtK : Option ℚ
  deriving DecidableEq

structure RankingSnapshotEvaluation where
  policyVersion : String
  visibleOpportunityCount : ℕ
  cutoffEvaluations : List RankingCutoffEvaluation
  deriving DecidableEq

structure RankingQueueSnapshotEvaluation where
  queueSnapshotDigest : String
  tenantId : String
  presentedAtUtc : DateTime
  queuePolicyVersion : String
  rankingPolicyVersion : String
  surface : String
  producer : String
  rankedEconomicIdentityIds : List String
  evaluation : RankingSnapshotEvaluation
  deriving DecidableEq

structure RankingCutoffAggregate where
  cutoff : ℕ
  snapshotCount : ℕ
  readySnapshotCount : ℕ
  incompletePresentationSnapshotCount : ℕ
  incompleteJudgmentSnapshotCount : ℕ
  judgedOpportunityCount : ℕ
  evaluatedOpportunityCount : ℕ
  judgmentCoverage : Option ℚ
  supportStatus : RankingMetricSupportStatus
  meanPrecisionAtK : Option ℚ
  meanNdcgAtK : Option ℚ

def rankingEvaluationPolicyVersion : String := "idea-ranking-evaluation-v1"

/-- `APPROVED_RANKING_CUTOFFS`. -/
def approvedRankingCutoffs : List ℕ := [1, 3, 5, 10]

/-! ## Rates -/

section Rates
variable {K : Type} [Field K] [LinearOrder K] [FloorRing K]

/-- The value in steps of `_RATE_QUANTUM`; a half goes away from zero. -/
def rateSteps (value : K) : ℤ :=
  if 0 ≤ value then ⌊value * 10 ^ 6 + 1 / 2⌋ else -⌊-value * 10 ^ 6 + 1 / 2⌋

/-- `_quantize` of this module. -/
def quantizeRate (value : K) : Except PyError ℚ := do
  validate [(decide (10 ^ contextDigits ≤ (rateSteps value).natAbs), .invalidOperation)]
  return rateSteps value / 10 ^ 6

end Rates

/-- `_ratio`. -/
def ratio (numerator denominator : ℕ) : Except PyError ℚ := do
  validate [(decide (denominator = 0), .invalidOperation)]
  quantizeRate (rounded (numerator / denominator))

/-- `_precision_at_k`. -/
def precisionAtK (relevance : List RankingRelevanceGrade) : Except PyError ℚ :=
  ratio (relevance.countP fun grade => RankingRelevanceGrade.useful ≤ grade) relevance.length

section Gains
variable {K : Type} [Field K] [LinearOrder K] [IsStrictOrderedRing K]

/-- `2 ** grade - 1`. -/
def relevanceGain : DiscountedGain.Gain RankingRelevanceGrade K where
  value grade := 2 ^ grade.value - 1
  nonneg grade := sub_nonneg.mpr (one_le_pow₀ one_le_two)
  increasing _ _ less :=
    sub_lt_sub_right (pow_lt_pow_right₀ one_lt_two (RankingRelevanceGrade.lt_iff.mp less)) 1

variable (discount : DiscountedGain.Discount K)

/-- `_ndcg_at_k` before it is quantized: `_discounted_cumulative_gain` of the grades
over that of the grades in their best order. -/
def ndcg (relevance : List RankingRelevanceGrade) : K :=
  DiscountedGain.normalized relevanceGain discount relevance

variable [FloorRing K]

/-- `_ndcg_at_k`. -/
def ndcgAtK (relevance : List RankingRelevanceGrade) : Except PyError ℚ :=
  quantizeRate (ndcg discount relevance)

/-! ## One snapshot -/

/-- `_validate_cutoffs`. -/
def validateCutoffs (cutoffs : List ℕ) : Except PyError Unit :=
  validate
    [(cutoffs.isEmpty, .valueError "cutoffs is required"),
     (cutoffs.any fun cutoff => cutoff = 0,
       .valueError "cutoffs must contain positive integers"),
     (cutoffs.dedup.insertionSort (· ≤ ·) ≠ cutoffs,
       .valueError "cutoffs must be unique and sorted"),
     (cutoffs.any fun cutoff => cutoff ∉ approvedRankingCutoffs,
       .valueError "unsupported ranking cutoffs")]

/-- `_validate_judgments`: the judgments by their rank. -/
def validateJudgments (visibleOpportunityCount : ℕ) :
    List RankedOpportunityJudgment → Dict ℕ RankedOpportunityJudgment →
      Except PyError (Dict ℕ RankedOpportunityJudgment)
  | [], byRank => .ok byRank
  | judgment :: rest, byRank => do
      validate
        [(decide (visibleOpportunityCount < judgment.val.rank),
          .valueError "judgment rank exceeds visible_opportunity_count"),
         ((byRank.get? judgment.val.rank).isSome, .valueError "judgment ranks must be unique")]
      validateJudgments visibleOpportunityCount rest (byRank.set judgment.val.rank judgment)

/-- `_evaluate_cutoff`. -/
def evaluateCutoff (byRank : Dict ℕ RankedOpportunityJudgment) (cutoff : ℕ)
    (visibleOpportunityCount : ℕ) : Except PyError RankingCutoffEvaluation := do
  let evaluatedDepth := min cutoff visibleOpportunityCount
  let observed := (List.range' 1 evaluatedDepth).filterMap byRank.get?
  let relevance := observed.filterMap fun judgment => judgment.val.relevanceGrade
  let coverage ← ratio relevance.length evaluatedDepth
  let population : RankingCutoffEvaluation :=
    { cutoff := cutoff
      evaluatedDepth := evaluatedDepth
      status := .incompletePresentation
      observedOpportunityCount := observed.length
      judgedOpportunityCount := relevance.length
      unjudgedOpportunityCount := evaluatedDepth - relevance.length
      judgmentCoverage := coverage
      precisionAtK := none
      ndcgAtK := none }
  if observed.length ≠ evaluatedDepth then
    return population
  else if relevance.length ≠ evaluatedDepth then
    return { population with status := .incompleteJudgments }
  else
    let precision ← precisionAtK relevance
    let gain ← ndcgAtK discount relevance
    return { population with
      status := .ready, precisionAtK := some precision, ndcgAtK := some gain }

/-- `evaluate_ranking_snapshot`. -/
def evaluateRankingSnapshot (judgments : List RankedOpportunityJudgment)
    (visibleOpportunityCount : ℕ) (cutoffs : List ℕ) :
    Except PyError RankingSnapshotEvaluation := do
  validate [requireVisibleOpportunityCount visibleOpportunityCount]
  validateCutoffs cutoffs
  let byRank ← validateJudgments visibleOpportunityCount judgments Dict.empty
  let evaluations ← cutoffs.mapM fun cutoff =>
    evaluateCutoff discount byRank cutoff visibleOpportunityCount
  return {
    policyVersion := rankingEvaluationPolicyVersion
    visibleOpportunityCount := visibleOpportunityCount
    cutoffEvaluations := evaluations }

/-! ## Many snapshots -/

/-- `fact_values == authority_values`. -/
def sameAuthority (fact authority : RankingPresentationFact) : Bool :=
  fact.val.tenantId = authority.val.tenantId &&
  fact.val.presentedAtUtc == authority.val.presentedAtUtc &&
  fact.val.visibleOpportunityCount = authority.val.visibleOpportunityCount &&
  fact.val.queuePolicyVersion = authority.val.queuePolicyVersion &&
  fact.val.rankingPolicyVersion = authority.val.rankingPolicyVersion &&
  fact.val.surface = authority.val.surface &&
  fact.val.producer = authority.val.producer

/-- `_validate_snapshot_consistency`. -/
def validateSnapshotConsistency (facts : List RankingPresentationFact)
    (authority : RankingPresentationFact) : Except PyError Unit :=
  validate
    [(facts.tail.any fun fact => !sameAuthority fact authority,
       .valueError "queue snapshot presentation facts are internally inconsistent"),
     (!decide (facts.map fun fact => fact.val.economicIdentityId).Nodup,
       .valueError "queue snapshot economic identities must be unique")]

/-- The evaluation of the facts under one digest; there is no group without a fact. -/
def evaluateQueueSnapshot (cutoffs : List ℕ) (snapshotDigest : String) :
    List RankingPresentationFact → Except PyError RankingQueueSnapshotEvaluation
  | [] => .error (.runtimeError "tuple index out of range")
  | authority :: rest => do
      let facts := authority :: rest
      validateSnapshotConsistency facts authority
      let evaluation ← evaluateRankingSnapshot discount (facts.map fun fact => fact.val.judgment)
        authority.val.visibleOpportunityCount cutoffs
      return {
        queueSnapshotDigest := snapshotDigest
        tenantId := authority.val.tenantId
        presentedAtUtc := authority.val.presentedAtUtc
        queuePolicyVersion := authority.val.queuePolicyVersion
        rankingPolicyVersion := authority.val.rankingPolicyVersion
        surface := authority.val.surface
        producer := authority.val.producer
        rankedEconomicIdentityIds :=
          (facts.insertionSort fun a b => a.val.judgment.val.rank ≤ b.val.judgment.val.rank).map
            fun fact => fact.val.economicIdentityId
        evaluation := evaluation }

/-- `evaluate_ranking_presentations`. -/
def evaluateRankingPresentations (facts : List RankingPresentationFact) (cutoffs : List ℕ) :
    Except PyError (List RankingQueueSnapshotEvaluation) :=
  let grouped := Dict.groupBy (fun fact => fact.val.queueSnapshotDigest) facts
  (grouped.keys.insertionSort (· ≤ ·)).mapM fun snapshotDigest =>
    evaluateQueueSnapshot discount cutoffs snapshotDigest
      ((grouped.get? snapshotDigest).getD [])

end Gains

/-! ## Averages -/

/-- `MINIMUM_READY_SNAPSHOT_COUNT`. -/
def minimumReadySnapshotCount : ℕ := 30

/-- `_mean_ready_metric` of one metric. -/
def meanReadyMetric (values : List (Option ℚ)) : Except PyError (Option ℚ) := do
  if values.isEmpty then return none
  else
    validate [(values.any Option.isNone,
      .valueError "ready ranking evaluations must carry quality values")]
    let mean ← quantizeRate (rounded ((values.filterMap id).sum / values.length))
    return some mean

/-- The share of judged opportunities, where any are evaluated. -/
def judgmentCoverage (judgedCount evaluatedCount : ℕ) : Except PyError (Option ℚ) :=
  if evaluatedCount = 0 then .ok none else some <$> ratio judgedCount evaluatedCount

/-- The aggregate of one cutoff. -/
def aggregateCutoff (evaluations : List RankingQueueSnapshotEvaluation)
    (minimumReadySnapshotCount cutoffValue : ℕ) : Except PyError RankingCutoffAggregate := do
  let cutoffEvaluations := (evaluations.flatMap fun snapshot =>
    snapshot.evaluation.cutoffEvaluations).filter fun item => item.cutoff = cutoffValue
  let ready := cutoffEvaluations.filter fun item => item.status = .ready
  let evaluatedCount := (cutoffEvaluations.map fun item => item.evaluatedDepth).sum
  let judgedCount := (cutoffEvaluations.map fun item => item.judgedOpportunityCount).sum
  let coverage ← judgmentCoverage judgedCount evaluatedCount
  let meanPrecision ← meanReadyMetric (ready.map fun item => item.precisionAtK)
  let meanNdcg ← meanReadyMetric (ready.map fun item => item.ndcgAtK)
  return {
    cutoff := cutoffValue
    snapshotCount := cutoffEvaluations.length
    readySnapshotCount := ready.length
    incompletePresentationSnapshotCount :=
      cutoffEvaluations.countP fun item => item.status = .incompletePresentation
    incompleteJudgmentSnapshotCount :=
      cutoffEvaluations.countP fun item => item.status = .incompleteJudgments
    judgedOpportunityCount := judgedCount
    evaluatedOpportunityCount := evaluatedCount
    judgmentCoverage := coverage
    supportStatus :=
      if ready.length = 0 then .unavailable
      else if ready.length < minimumReadySnapshotCount then .insufficientSupport
      else .ready
    meanPrecisionAtK := meanPrecision
    meanNdcgAtK := meanNdcg }

/-- `aggregate_ranking_evaluations`. -/
def aggregateRankingEvaluations (evaluations : List RankingQueueSnapshotEvaluation)
    (minimumReadySnapshotCount : ℕ) : Except PyError (List RankingCutoffAggregate) := do
  validate [(decide (minimumReadySnapshotCount = 0),
    .valueError "minimum_ready_snapshot_count must be a positive integer")]
  let cutoffValues := ((evaluations.flatMap fun snapshot =>
    snapshot.evaluation.cutoffEvaluations).map fun item => item.cutoff).dedup.insertionSort (· ≤ ·)
  cutoffValues.mapM (aggregateCutoff evaluations minimumReadySnapshotCount)

end LotusIdea

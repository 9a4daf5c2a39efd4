import LotusIdea.Application.EffectivenessRates
import LotusIdea.Application.EffectivenessSummary
import LotusIdea.Repository.RevokedAuthority

/-!
# The effectiveness funnel

The rates that the report of a cohort tells, and over which of them the families split:
all but those of feedback, conversions and suppressions always, these where no family
counts more than it divides by, or every candidate was reviewed.
-/

set_option autoImplicit false

namespace LotusIdea

/-! ## The rates of the report -/

/-- The rates that a family and the whole cohort have. -/
inductive FunnelRate where
  | review
  | approval
  | rejection
  | suppression
  | feedback
  | conversion
  | downstreamAccepted
  | downstreamRejected
  | downstreamFailed
  | downstreamUncertain
  deriving DecidableEq

namespace FunnelRate

def numerator (item : OpportunityFamilyEffectivenessRepositorySummary) : FunnelRate → ℕ
  | review => item.reviewedOpportunityCount
  | approval => item.approvedOpportunityCount
  | rejection => item.rejectedOpportunityCount
  | suppression => item.suppressedOpportunityCount
  | feedback => item.feedbackOpportunityCount
  | conversion => item.conversionOpportunityCount
  | downstreamAccepted => item.downstreamAcceptedCount
  | downstreamRejected => item.downstreamRejectedCount
  | downstreamFailed => item.downstreamFailedCount
  | downstreamUncertain => item.downstreamUncertainCount

def denominator (item : OpportunityFamilyEffectivenessRepositorySummary) : FunnelRate → ℕ
  | review | suppression => item.generatedOpportunityCount
  | approval | rejection | feedback => item.reviewedOpportunityCount
  | conversion => item.approvedOpportunityCount
  | downstreamAccepted | downstreamRejected | downstreamFailed | downstreamUncertain =>
      item.conversionIntentCount

def overallNumerator (summary : OpportunityEffectivenessRepositorySummary) : FunnelRate → ℕ
  | review => summary.reviewedOpportunityCount
  | approval => summary.latestReviewActionCounts.get "approve_for_conversion"
  | rejection => summary.latestReviewActionCounts.get "reject"
  | suppression => summary.suppressedOpportunityCount
  | feedback => summary.feedbackOpportunityCount
  | conversion => summary.conversionOpportunityCount
  | downstreamAccepted => (downstreamOutcomeCounts summary.currentDownstreamOutcomeCounts).accepted
  | downstreamRejected => (downstreamOutcomeCounts summary.currentDownstreamOutcomeCounts).rejected
  | downstreamFailed => (downstreamOutcomeCounts summary.currentDownstreamOutcomeCounts).failed
  | downstreamUncertain =>
      (downstreamOutcomeCounts summary.currentDownstreamOutcomeCounts).uncertain

def overallDenominator (summary : OpportunityEffectivenessRepositorySummary) : FunnelRate → ℕ
  | review => summary.generatedOpportunityCount
  | approval | rejection | suppression | feedback => summary.reviewedOpportunityCount
  | conversion => summary.latestReviewActionCounts.get "approve_for_conversion"
  | downstreamAccepted | downstreamRejected | downstreamFailed | downstreamUncertain =>
      summary.conversionIntentCount

def rateOf (rates : FunnelRates) : FunnelRate → EffectivenessRate
  | review => rates.reviewRate
  | approval => rates.approvalRate
  | rejection => rates.rejectionRate
  | suppression => rates.suppressionRate
  | feedback => rates.feedbackRate
  | conversion => rates.conversionRate
  | downstreamAccepted => rates.downstreamAcceptedRate
  | downstreamRejected => rates.downstreamRejectedRate
  | downstreamFailed => rates.downstreamFailedRate
  | downstreamUncertain => rates.downstreamUncertainRate

/-- A family counts feedback and conversions also of candidates that no review, or no
approval, stands for. -/
def isBounded : FunnelRate → Bool
  | feedback | conversion => false
  | _ => true

/-- The rates over conversion intents. -/
def isDownstream : FunnelRate → Bool
  | downstreamAccepted | downstreamRejected | downstreamFailed | downstreamUncertain => true
  | _ => false

end FunnelRate

/-- A family's rates are those of its counts. -/
structure RatesOf (presentationAvailable : Bool)
    (item : OpportunityFamilyEffectivenessRepositorySummary)
    (effectiveness : OpportunityFamilyEffectiveness) : Prop where
  rates : ∀ name : FunnelRate, rate (name.numerator item) (name.denominator item) =
    .ok (name.rateOf effectiveness.toFunnelRates)
  presentation : if presentationAvailable then
      ∃ r, rate item.presentedOpportunityCount item.generatedOpportunityCount = .ok r ∧
        effectiveness.presentationRate = some r
    else effectiveness.presentationRate = none

theorem availableRate_returns {available : Bool} {numerator denominator : ℕ}
    {result : Option EffectivenessRate}
    (ran : availableRate available numerator denominator = .ok result) :
    if available then ∃ r, rate numerator denominator = .ok r ∧ result = some r
      else result = none := by
  unfold availableRate at ran
  cases available with
  | false =>
      cases ran
      rfl
  | true =>
      cases made : rate numerator denominator with
      | error raised =>
          rw [made] at ran
          cases ran
      | ok r =>
          rw [made] at ran
          cases ran
          exact ⟨r, rfl, rfl⟩

theorem buildFamilyEffectiveness_returns {presentationAvailable : Bool}
    {item : OpportunityFamilyEffectivenessRepositorySummary}
    {effectiveness : OpportunityFamilyEffectiveness}
    (ran : buildFamilyEffectiveness presentationAvailable item = .ok effectiveness) :
    RatesOf presentationAvailable item effectiveness := by
  unfold buildFamilyEffectiveness at ran
  obtain ⟨family, -, ran⟩ := Except.seq_returns.mp ran
  obtain ⟨presentation, presented, ran⟩ := Except.seq_returns.mp ran
  obtain ⟨review, reviewed, ran⟩ := Except.seq_returns.mp ran
  obtain ⟨approval, approved, ran⟩ := Except.seq_returns.mp ran
  obtain ⟨rejection, rejected, ran⟩ := Except.seq_returns.mp ran
  obtain ⟨suppression, suppressed, ran⟩ := Except.seq_returns.mp ran
  obtain ⟨duplicate, -, ran⟩ := Except.seq_returns.mp ran
  obtain ⟨feedback, fedBack, ran⟩ := Except.seq_returns.mp ran
  obtain ⟨conversion, converted, ran⟩ := Except.seq_returns.mp ran
  obtain ⟨accepted, acceptedRan, ran⟩ := Except.seq_returns.mp ran
  obtain ⟨refused, refusedRan, ran⟩ := Except.seq_returns.mp ran
  obtain ⟨failed, failedRan, ran⟩ := Except.seq_returns.mp ran
  obtain ⟨uncertain, uncertainRan, made⟩ := Except.seq_returns.mp ran
  cases made
  refine ⟨?_, availableRate_returns presented⟩
  intro name
  cases name with
  | review => exact reviewed
  | approval => exact approved
  | rejection => exact rejected
  | suppression => exact suppressed
  | feedback => exact fedBack
  | conversion => exact converted
  | downstreamAccepted => exact acceptedRan
  | downstreamRejected => exact refusedRan
  | downstreamFailed => exact failedRan
  | downstreamUncertain => exact uncertainRan

section FamilyRates
variable (receipts : List CandidatePresentationReceipt) (evaluatedAtUtc : DateTime)
  (family : OpportunityFamily) (own : List CandidatePersistenceRecord)

theorem FunnelRate.numerator_le_generated {name : FunnelRate} (upstream : name.isDownstream = false) :
    name.numerator (familySummaryOf receipts evaluatedAtUtc family own) ≤ own.length := by
  have decided := decided_le_reviewed own evaluatedAtUtc
  have reviewed : (totalMeasures own evaluatedAtUtc).reviewedOpportunityCount ≤ own.length :=
    List.countP_le_length
  cases name with
  | approval => exact (Nat.le_of_add_right_le decided).trans reviewed
  | rejection => exact (Nat.le_of_add_left_le decided).trans reviewed
  | review => exact List.countP_le_length
  | suppression => exact List.countP_le_length
  | feedback => exact List.countP_le_length
  | conversion => exact List.countP_le_length
  | downstreamAccepted => cases upstream
  | downstreamRejected => cases upstream
  | downstreamFailed => cases upstream
  | downstreamUncertain => cases upstream

theorem FunnelRate.numerator_le_denominator {name : FunnelRate} (bounded : name.isBounded = true) :
    name.numerator (familySummaryOf receipts evaluatedAtUtc family own) ≤
      name.denominator (familySummaryOf receipts evaluatedAtUtc family own) := by
  have decided := decided_le_reviewed own evaluatedAtUtc
  have outcomes := outcomes_reconcile own evaluatedAtUtc
  simp only at outcomes
  cases name with
  | review => exact List.countP_le_length
  | approval => exact Nat.le_of_add_right_le decided
  | rejection => exact Nat.le_of_add_left_le decided
  | suppression => exact List.countP_le_length
  | feedback => cases bounded
  | conversion => cases bounded
  | downstreamAccepted =>
      simp only [numerator, denominator, familySummaryOf]
      omega
  | downstreamRejected =>
      simp only [numerator, denominator, familySummaryOf]
      omega
  | downstreamFailed =>
      simp only [numerator, denominator, familySummaryOf]
      omega
  | downstreamUncertain =>
      simp only [numerator, denominator, familySummaryOf]
      omega

end FamilyRates

theorem rate_returns_of_few {numerator denominator : ℕ}
    (few : numerator ≤ 10000 ∨ numerator ≤ denominator) :
    ∃ r, rate numerator denominator = .ok r := by
  have small : 10000 ≤ 10 ^ 20 := by decide
  apply rate_returns small
  by_cases zero : denominator = 0
  · exact .inr zero
  · left
    have once : 1 ≤ denominator := Nat.pos_of_ne_zero zero
    have scaled : 10000 * 1 ≤ 10000 * denominator := Nat.mul_le_mul_left _ once
    omega

/-- The rates of the report are those of the summary's counts. -/
structure ReportOf (summary : OpportunityEffectivenessRepositorySummary)
    (report : OpportunityEffectivenessRates) : Prop where
  rates : ∀ name : FunnelRate, rate (name.overallNumerator summary)
    (name.overallDenominator summary) = .ok (name.rateOf report.toFunnelRates)
  presentation : availableRate (decide (summary.presentedOpportunityCount ≠ 0))
    summary.presentedOpportunityCount summary.generatedOpportunityCount =
      .ok report.presentationRate
  topRanked : availableRate (decide (summary.presentedOpportunityCount ≠ 0))
    summary.topRankedAcceptedOpportunityCount summary.topRankedPresentedOpportunityCount =
      .ok report.topRankedAcceptanceRate
  families : (Sql.orderBy (fun item => item.family) summary.familyEffectiveness).mapM
    (buildFamilyEffectiveness (decide (summary.presentedOpportunityCount ≠ 0))) =
      .ok report.familyEffectiveness

theorem availableRate_total {available : Bool} {numerator denominator : ℕ}
    (few : numerator ≤ 10000 ∨ numerator ≤ denominator) :
    ∃ result, availableRate available numerator denominator = .ok result := by
  obtain ⟨r, made⟩ := rate_returns_of_few few
  cases available with
  | false => exact ⟨none, rfl⟩
  | true => exact ⟨some r, by rw [availableRate, if_pos rfl, made]; rfl⟩

theorem buildFamilyEffectiveness_total (presentationAvailable : Bool)
    (receipts : List CandidatePresentationReceipt) (evaluatedAtUtc : DateTime)
    (family : OpportunityFamily) {own : List CandidatePersistenceRecord}
    (small : own.length ≤ 10000) :
    ∃ effectiveness, buildFamilyEffectiveness presentationAvailable
      (familySummaryOf receipts evaluatedAtUtc family own) = .ok effectiveness := by
  have rates : ∀ name : FunnelRate, ∃ r,
      rate (name.numerator (familySummaryOf receipts evaluatedAtUtc family own))
        (name.denominator (familySummaryOf receipts evaluatedAtUtc family own)) = .ok r := by
    intro name
    apply rate_returns_of_few
    cases upstream : name.isDownstream with
    | false =>
        exact .inl ((FunnelRate.numerator_le_generated receipts evaluatedAtUtc family own
          upstream).trans small)
    | true =>
        refine .inr (FunnelRate.numerator_le_denominator receipts evaluatedAtUtc family own ?_)
        cases name <;> first | rfl | cases upstream
  choose r ran using rates
  have fits : ∀ p : CandidatePersistenceRecord → Bool, own.countP p ≤ 10000 :=
    fun p => List.countP_le_length.trans small
  obtain ⟨presentation, presented⟩ : ∃ result, availableRate presentationAvailable
      (own.countP (isPresented receipts evaluatedAtUtc)) own.length = .ok result :=
    availableRate_total (.inl (fits _))
  obtain ⟨duplicate, duplicated⟩ : ∃ r,
      rate (own.countP (isDuplicateSuppressed evaluatedAtUtc)) own.length = .ok r :=
    rate_returns_of_few (.inl (fits _))
  have named : (PyEnum.ofValue? family.value : Option OpportunityFamily) = some family :=
    PyEnum.ofValue?_value family
  unfold buildFamilyEffectiveness
  refine ⟨_, Except.seq_returns.mpr ⟨family, ?_, Except.seq_returns.mpr ⟨presentation, presented,
    Except.seq_returns.mpr ⟨_, ran .review, Except.seq_returns.mpr ⟨_, ran .approval,
    Except.seq_returns.mpr ⟨_, ran .rejection, Except.seq_returns.mpr ⟨_, ran .suppression,
    Except.seq_returns.mpr ⟨duplicate, duplicated, Except.seq_returns.mpr ⟨_, ran .feedback,
    Except.seq_returns.mpr ⟨_, ran .conversion, Except.seq_returns.mpr ⟨_, ran .downstreamAccepted,
    Except.seq_returns.mpr ⟨_, ran .downstreamRejected,
    Except.seq_returns.mpr ⟨_, ran .downstreamFailed,
    Except.seq_returns.mpr ⟨_, ran .downstreamUncertain, rfl⟩⟩⟩⟩⟩⟩⟩⟩⟩⟩⟩⟩⟩⟩
  change (PyEnum.ofValue? family.value : Option OpportunityFamily).elim _ _ = _
  rw [named]
  rfl

theorem buildOpportunityEffectivenessRates_returns
    {summary : OpportunityEffectivenessRepositorySummary} {report : OpportunityEffectivenessRates}
    (made : ReportOf summary report) :
    buildOpportunityEffectivenessRates summary = .ok report := by
  unfold buildOpportunityEffectivenessRates
  exact Except.seq_returns.mpr ⟨_, made.rates .downstreamAccepted,
    Except.seq_returns.mpr ⟨_, made.rates .downstreamRejected,
    Except.seq_returns.mpr ⟨_, made.rates .downstreamFailed,
    Except.seq_returns.mpr ⟨_, made.rates .downstreamUncertain,
    Except.seq_returns.mpr ⟨_, made.presentation, Except.seq_returns.mpr ⟨_, made.topRanked,
    Except.seq_returns.mpr ⟨_, made.families, Except.seq_returns.mpr ⟨_, made.rates .review,
    Except.seq_returns.mpr ⟨_, made.rates .approval, Except.seq_returns.mpr ⟨_, made.rates .rejection,
    Except.seq_returns.mpr ⟨_, made.rates .suppression,
    Except.seq_returns.mpr ⟨_, made.rates .feedback,
    Except.seq_returns.mpr ⟨_, made.rates .conversion, rfl⟩⟩⟩⟩⟩⟩⟩⟩⟩⟩⟩⟩⟩

section Report
variable {receipts : List CandidatePresentationReceipt} {records : List CandidatePersistenceRecord}
  {evaluatedAtUtc : DateTime} {summary : OpportunityEffectivenessRepositorySummary}

theorem SummaryOf.numerators (told : SummaryOf receipts records evaluatedAtUtc summary)
    (name : FunnelRate) : name.overallNumerator summary =
      (summary.familyEffectiveness.map fun item => name.numerator item).sum := by
  have totals := told.totals
  simp only [familyTotals, List.forall_mem_cons] at totals
  obtain ⟨generated, presented, reviewed, approved, rejected, suppressed, duplicates, feedback,
    conversion, intents, accepted, refused, failed, uncertain, -⟩ := totals
  cases name with
  | review => exact reviewed
  | approval => exact approved
  | rejection => exact rejected
  | suppression => exact suppressed
  | feedback => exact feedback
  | conversion => exact conversion
  | downstreamAccepted => exact accepted
  | downstreamRejected => exact refused
  | downstreamFailed => exact failed
  | downstreamUncertain => exact uncertain

/-- The families divide as the whole does, but for what is suppressed. -/
theorem SummaryOf.denominators (told : SummaryOf receipts records evaluatedAtUtc summary)
    {name : FunnelRate} (other : name ≠ .suppression) : name.overallDenominator summary =
      (summary.familyEffectiveness.map fun item => name.denominator item).sum := by
  have totals := told.totals
  simp only [familyTotals, List.forall_mem_cons] at totals
  obtain ⟨generated, presented, reviewed, approved, rejected, suppressed, duplicates, feedback,
    conversion, intents, -⟩ := totals
  cases name with
  | review => exact generated
  | approval => exact reviewed
  | rejection => exact reviewed
  | suppression => exact absurd rfl other
  | feedback => exact reviewed
  | conversion => exact approved
  | downstreamAccepted => exact intents
  | downstreamRejected => exact intents
  | downstreamFailed => exact intents
  | downstreamUncertain => exact intents

theorem SummaryOf.family_of_mem (told : SummaryOf receipts records evaluatedAtUtc summary)
    {item : OpportunityFamilyEffectivenessRepositorySummary}
    (listed : item ∈ summary.familyEffectiveness) :
    ∃ family, item = familySummaryOf receipts evaluatedAtUtc family
      (familyRecords records family) := by
  rw [told.families] at listed
  obtain ⟨family, -, rfl⟩ := List.mem_map.mp listed
  exact ⟨family, rfl⟩

/-- An overall numerator is small or within its denominator. -/
theorem SummaryOf.overall_few (told : SummaryOf receipts records evaluatedAtUtc summary)
    (small : records.length ≤ 10000) (name : FunnelRate) :
    name.overallNumerator summary ≤ 10000 ∨
      name.overallNumerator summary ≤ name.overallDenominator summary := by
  rw [told.numerators]
  cases upstream : name.isDownstream with
  | false =>
      left
      have generated : records.length =
          (summary.familyEffectiveness.map fun item => item.generatedOpportunityCount).sum :=
        told.sum Grouping.Additive.length fun _ _ => rfl
      have each : (summary.familyEffectiveness.map fun item => name.numerator item).sum ≤
          (summary.familyEffectiveness.map fun item => item.generatedOpportunityCount).sum := by
        refine List.sum_le_sum fun item listed => ?_
        obtain ⟨family, rfl⟩ := told.family_of_mem listed
        exact FunnelRate.numerator_le_generated receipts evaluatedAtUtc family _ upstream
      omega
  | true =>
      right
      have other : name ≠ .suppression := by
        rintro rfl
        cases upstream
      rw [told.denominators other]
      refine List.sum_le_sum fun item listed => ?_
      obtain ⟨family, rfl⟩ := told.family_of_mem listed
      refine FunnelRate.numerator_le_denominator receipts evaluatedAtUtc family _ ?_
      cases name <;> first | rfl | cases upstream

theorem SummaryOf.report (told : SummaryOf receipts records evaluatedAtUtc summary)
    (small : records.length ≤ 10000) : ∃ report, ReportOf summary report := by
  have rates : ∀ name : FunnelRate, ∃ r,
      rate (name.overallNumerator summary) (name.overallDenominator summary) = .ok r :=
    fun name => rate_returns_of_few (told.overall_few small name)
  choose r ran using rates
  have presentedFew : summary.presentedOpportunityCount ≤ 10000 := by
    rw [told.presented]
    exact List.countP_le_length.trans small
  obtain ⟨presentation, presented⟩ : ∃ result,
      availableRate (decide (summary.presentedOpportunityCount ≠ 0))
        summary.presentedOpportunityCount summary.generatedOpportunityCount = .ok result :=
    availableRate_total (.inl presentedFew)
  obtain ⟨topRanked, ranked⟩ : ∃ result,
      availableRate (decide (summary.presentedOpportunityCount ≠ 0))
        summary.topRankedAcceptedOpportunityCount summary.topRankedPresentedOpportunityCount =
          .ok result :=
    availableRate_total (.inr told.topRankedAccepted)
  have each : ∀ item ∈ Sql.orderBy (fun item => item.family) summary.familyEffectiveness,
      ∃ effectiveness, buildFamilyEffectiveness
        (decide (summary.presentedOpportunityCount ≠ 0)) item = .ok effectiveness := by
    intro item listed
    obtain ⟨family, rfl⟩ := told.family_of_mem (Sql.mem_orderBy.mp listed)
    refine buildFamilyEffectiveness_total _ receipts evaluatedAtUtc family ?_
    exact (List.length_filter_le _ _).trans small
  obtain ⟨families, made, -⟩ := Except.mapM_total each
  refine ⟨{ presentationRate := presentation, reviewRate := r .review, approvalRate := r .approval
            rejectionRate := r .rejection, suppressionRate := r .suppression
            feedbackRate := r .feedback, conversionRate := r .conversion
            downstreamAcceptedRate := r .downstreamAccepted
            downstreamRejectedRate := r .downstreamRejected
            downstreamFailedRate := r .downstreamFailed
            downstreamUncertainRate := r .downstreamUncertain
            topRankedAcceptanceRate := topRanked, familyEffectiveness := families },
    ⟨?_, presented, ranked, made⟩⟩
  intro name
  cases name <;> exact ran _

/-- The families' rates of one name. -/
def OpportunityEffectivenessRates.familyRates (report : OpportunityEffectivenessRates)
    (name : FunnelRate) : List EffectivenessRate :=
  report.familyEffectiveness.map fun effectiveness => name.rateOf effectiveness.toFunnelRates

/-- A sum over the families of the report is the sum over those of the summary. -/
theorem ReportOf.sum_families {report : OpportunityEffectivenessRates}
    (made : ReportOf summary report) {told : OpportunityFamilyEffectiveness → ℕ}
    {own : OpportunityFamilyEffectivenessRepositorySummary → ℕ}
    (same : ∀ item effectiveness,
      RatesOf (decide (summary.presentedOpportunityCount ≠ 0)) item effectiveness →
        told effectiveness = own item) :
    (report.familyEffectiveness.map told).sum = (summary.familyEffectiveness.map own).sum := by
  have told := Except.map_of_mapM made.families fun item _ effectiveness ran =>
    same item effectiveness (buildFamilyEffectiveness_returns ran)
  rw [told]
  exact ((Sql.orderBy_perm _ _).map own).sum_eq

theorem ReportOf.rate_of_mem {report : OpportunityEffectivenessRates}
    (made : ReportOf summary report) {name : FunnelRate} {r : EffectivenessRate}
    (listed : r ∈ report.familyRates name) : ∃ item ∈ summary.familyEffectiveness,
      rate (name.numerator item) (name.denominator item) = .ok r := by
  obtain ⟨effectiveness, among, rfl⟩ := List.mem_map.mp listed
  obtain ⟨item, member, ran⟩ := Except.mem_of_mapM made.families effectiveness among
  exact ⟨item, Sql.mem_orderBy.mp member, (buildFamilyEffectiveness_returns ran).rates name⟩

theorem ReportOf.rate_of_item {report : OpportunityEffectivenessRates}
    (made : ReportOf summary report) (name : FunnelRate)
    {item : OpportunityFamilyEffectivenessRepositorySummary}
    (listed : item ∈ summary.familyEffectiveness) : ∃ r ∈ report.familyRates name,
      r.numerator = name.numerator item ∧ r.denominator = name.denominator item := by
  obtain ⟨effectiveness, among, ran⟩ :=
    Except.each_of_mapM made.families item (Sql.mem_orderBy.mpr listed)
  obtain ⟨numerator, denominator, -⟩ :=
    rate_parts ((buildFamilyEffectiveness_returns ran).rates name)
  exact ⟨_, List.mem_map_of_mem among, numerator, denominator⟩

theorem ReportOf.computed {report : OpportunityEffectivenessRates}
    (made : ReportOf summary report) (name : FunnelRate) :
    ∀ r ∈ report.familyRates name, r.Computed := by
  intro r listed
  obtain ⟨item, -, ran⟩ := made.rate_of_mem listed
  exact (rate_parts ran).2.2

theorem ReportOf.numerators {report : OpportunityEffectivenessRates}
    (made : ReportOf summary report) (name : FunnelRate) :
    ((report.familyRates name).map fun r => r.numerator).sum =
      (summary.familyEffectiveness.map fun item => name.numerator item).sum := by
  rw [OpportunityEffectivenessRates.familyRates, List.map_map]
  exact made.sum_families fun item effectiveness of => (rate_parts (of.rates name)).1

theorem ReportOf.denominators {report : OpportunityEffectivenessRates}
    (made : ReportOf summary report) (name : FunnelRate) :
    ((report.familyRates name).map fun r => r.denominator).sum =
      (summary.familyEffectiveness.map fun item => name.denominator item).sum := by
  rw [OpportunityEffectivenessRates.familyRates, List.map_map]
  exact made.sum_families fun item effectiveness of => (rate_parts (of.rates name)).2.1

/-- What the rates of a report come to. -/
structure OpportunityEffectivenessRates.AddsUp (report : OpportunityEffectivenessRates)
    (summary : OpportunityEffectivenessRepositorySummary) : Prop where
  bounded : ∀ name : FunnelRate, name.isBounded = true → name ≠ .suppression →
    RateSplits (name.rateOf report.toFunnelRates) (report.familyRates name)
  unbounded : ∀ name : FunnelRate, name.isBounded = false →
    (RateSplits (name.rateOf report.toFunnelRates) (report.familyRates name) ↔
      name.overallDenominator summary = 0 ∨
        ∀ item ∈ summary.familyEffectiveness, name.numerator item ≤ name.denominator item)
  suppression : RateSplits report.suppressionRate (report.familyRates .suppression) ↔
    summary.reviewedOpportunityCount = summary.generatedOpportunityCount
  presentation : ∀ overall, report.presentationRate = some overall →
    RateSplits overall
      (report.familyEffectiveness.filterMap fun effectiveness => effectiveness.presentationRate)
  topRanked : ∀ r, report.topRankedAcceptanceRate = some r → r.InUnit

theorem ReportOf.splits_of_bounded {report : OpportunityEffectivenessRates}
    (told : SummaryOf receipts records evaluatedAtUtc summary) (made : ReportOf summary report)
    {name : FunnelRate} (bounded : name.isBounded = true)
    (denominator : name.overallDenominator summary =
      (summary.familyEffectiveness.map fun item => name.denominator item).sum) :
    RateSplits (name.rateOf report.toFunnelRates) (report.familyRates name) := by
  obtain ⟨overallNumerator, overallDenominator, computed⟩ := rate_parts (made.rates name)
  apply splits_of_le computed (made.computed name)
  · rw [overallNumerator, made.numerators, told.numerators]
  · rw [overallDenominator, made.denominators, denominator]
  · intro r listed
    obtain ⟨item, member, ran⟩ := made.rate_of_mem listed
    obtain ⟨family, rfl⟩ := told.family_of_mem member
    rw [(rate_parts ran).1, (rate_parts ran).2.1]
    exact FunnelRate.numerator_le_denominator receipts evaluatedAtUtc family _ bounded

theorem ReportOf.splits_iff_of_unbounded {report : OpportunityEffectivenessRates}
    (told : SummaryOf receipts records evaluatedAtUtc summary) (made : ReportOf summary report)
    (small : records.length ≤ 10000) {name : FunnelRate} (unbounded : name.isBounded = false) :
    RateSplits (name.rateOf report.toFunnelRates) (report.familyRates name) ↔
      name.overallDenominator summary = 0 ∨
        ∀ item ∈ summary.familyEffectiveness, name.numerator item ≤ name.denominator item := by
  obtain ⟨overallNumerator, overallDenominator, computed⟩ := rate_parts (made.rates name)
  have other : name ≠ .suppression := by
    rintro rfl
    cases unbounded
  have few : name.overallDenominator summary ≤ 10000 := by
    have reviewed : summary.reviewedOpportunityCount ≤ records.length := by
      rw [told.reviewed]
      exact List.countP_le_length
    have approved : summary.latestReviewActionCounts.get "approve_for_conversion" ≤
        summary.reviewedOpportunityCount := by
      rw [told.actions, told.reviewed]
      exact Nat.le_of_add_right_le (decided_le_reviewed records evaluatedAtUtc)
    cases name with
    | feedback => exact reviewed.trans small
    | conversion => exact approved.trans (reviewed.trans small)
    | _ => cases unbounded
  rw [splits_iff computed (made.computed name)
    (by rw [overallNumerator, made.numerators, told.numerators])
    (by rw [overallDenominator, made.denominators, told.denominators other])
    (overallDenominator ▸ few), overallDenominator]
  refine or_congr_right ⟨fun le item listed => ?_, fun le r listed => ?_⟩
  · obtain ⟨r, among, numerator, denominator⟩ := made.rate_of_item name listed
    rw [← numerator, ← denominator]
    exact le r among
  · obtain ⟨item, member, ran⟩ := made.rate_of_mem listed
    rw [(rate_parts ran).1, (rate_parts ran).2.1]
    exact le item member

/-- What is suppressed is divided by the reviewed candidates in all, and by the generated
ones in the families. -/
theorem ReportOf.suppression_iff {report : OpportunityEffectivenessRates}
    (told : SummaryOf receipts records evaluatedAtUtc summary) (made : ReportOf summary report) :
    RateSplits report.suppressionRate (report.familyRates .suppression) ↔
      summary.reviewedOpportunityCount = summary.generatedOpportunityCount := by
  have generated : summary.generatedOpportunityCount = (summary.familyEffectiveness.map
      fun item => FunnelRate.denominator item .suppression).sum := by
    rw [told.generated]
    exact told.sum Grouping.Additive.length fun _ _ => rfl
  obtain ⟨-, overallDenominator, -⟩ := rate_parts (made.rates .suppression)
  constructor
  · intro splits
    have same := splits.denominator
    rw [made.denominators, ← generated] at same
    exact overallDenominator.symm.trans same
  · intro same
    have bounded : FunnelRate.suppression.isBounded = true := rfl
    refine ReportOf.splits_of_bounded told made bounded ?_
    rw [← generated, ← same]
    rfl

/-- The presentation rates of the families, where presentations are measured. -/
theorem ReportOf.presentation_splits {report : OpportunityEffectivenessRates}
    (told : SummaryOf receipts records evaluatedAtUtc summary) (made : ReportOf summary report)
    {overall : EffectivenessRate} (measured : report.presentationRate = some overall) :
    RateSplits overall
      (report.familyEffectiveness.filterMap fun effectiveness => effectiveness.presentationRate) := by
  have own := availableRate_returns made.presentation
  rw [measured] at own
  by_cases available : decide (summary.presentedOpportunityCount ≠ 0) = true
  · rw [if_pos available] at own
    obtain ⟨r, ran, same⟩ := own
    cases same
    obtain ⟨overallNumerator, overallDenominator, computed⟩ := rate_parts ran
    let presentationRate : OpportunityFamilyEffectiveness → EffectivenessRate :=
      fun effectiveness => effectiveness.presentationRate.getD ⟨0, 0, none⟩
    have each : ∀ item effectiveness,
        RatesOf (decide (summary.presentedOpportunityCount ≠ 0)) item effectiveness →
        effectiveness.presentationRate = some (presentationRate effectiveness) ∧
          rate item.presentedOpportunityCount item.generatedOpportunityCount =
            .ok (presentationRate effectiveness) := by
      intro item effectiveness rates
      have presentation := rates.presentation
      rw [if_pos available] at presentation
      obtain ⟨r, ran, told⟩ := presentation
      simp only [presentationRate, told, Option.getD_some]
      exact ⟨trivial, ran⟩
    have families : (report.familyEffectiveness.filterMap fun effectiveness =>
        effectiveness.presentationRate) = report.familyEffectiveness.map presentationRate := by
      rw [← List.filterMap_eq_map]
      refine List.filterMap_congr fun effectiveness listed => ?_
      obtain ⟨item, -, ran⟩ := Except.mem_of_mapM made.families effectiveness listed
      exact (each item effectiveness (buildFamilyEffectiveness_returns ran)).1
    have rateOf : ∀ r ∈ report.familyEffectiveness.map presentationRate, ∃ item ∈
        summary.familyEffectiveness,
        rate item.presentedOpportunityCount item.generatedOpportunityCount = .ok r := by
      intro r listed
      obtain ⟨effectiveness, among, rfl⟩ := List.mem_map.mp listed
      obtain ⟨item, member, ran⟩ := Except.mem_of_mapM made.families effectiveness among
      exact ⟨item, Sql.mem_orderBy.mp member,
        (each item effectiveness (buildFamilyEffectiveness_returns ran)).2⟩
    rw [families]
    apply splits_of_le computed
    · intro r listed
      obtain ⟨item, -, ran⟩ := rateOf r listed
      exact (rate_parts ran).2.2
    · have presented : records.countP (isPresented receipts evaluatedAtUtc) =
          (summary.familyEffectiveness.map fun item => item.presentedOpportunityCount).sum :=
        told.sum (Grouping.Additive.countP _) fun _ _ => rfl
      rw [overallNumerator, List.map_map, told.presented, presented]
      exact (made.sum_families fun item effectiveness rates =>
        (rate_parts (each item effectiveness rates).2).1).symm
    · have generated : records.length =
          (summary.familyEffectiveness.map fun item => item.generatedOpportunityCount).sum :=
        told.sum Grouping.Additive.length fun _ _ => rfl
      rw [overallDenominator, List.map_map, told.generated, generated]
      exact (made.sum_families fun item effectiveness rates =>
        (rate_parts (each item effectiveness rates).2).2.1).symm
    · intro r listed
      obtain ⟨item, member, ran⟩ := rateOf r listed
      obtain ⟨family, rfl⟩ := told.family_of_mem member
      rw [(rate_parts ran).1, (rate_parts ran).2.1]
      exact List.countP_le_length
  · rw [if_neg available] at own
    cases own

theorem ReportOf.addsUp {report : OpportunityEffectivenessRates}
    (told : SummaryOf receipts records evaluatedAtUtc summary) (made : ReportOf summary report)
    (small : records.length ≤ 10000) : report.AddsUp summary where
  bounded _ bounded other := made.splits_of_bounded told bounded (told.denominators other)
  unbounded _ unbounded := made.splits_iff_of_unbounded told small unbounded
  suppression := made.suppression_iff told
  presentation _ measured := made.presentation_splits told measured
  topRanked r measured := by
    have own := availableRate_returns made.topRanked
    rw [measured] at own
    by_cases available : decide (summary.presentedOpportunityCount ≠ 0) = true
    · rw [if_pos available] at own
      obtain ⟨made, ran, same⟩ := own
      cases same
      obtain ⟨numerator, denominator, computed⟩ := rate_parts ran
      apply computed.inUnit
      rw [numerator, denominator]
      exact told.topRankedAccepted
    · rw [if_neg available] at own
      cases own

end Report

/-! ## The funnel of a repository -/

section Funnel
variable [Sha256]

end Funnel

/-! ## A cohort of one candidate -/

section Sample

local instance funnelSha256 : Sha256 := .zeros

def sampleUnreviewedRecord : CandidatePersistenceRecord where
  val :=
    { candidate := sampleCandidate false, evidenceHash := "evidence-1", persistedAtUtc := .utc 10 }
  valid := by decide +kernel

def sampleUnreviewed : IdeaRepository :=
  { IdeaRepository.empty with
    candidateRecords := Dict.empty.set "idea-1" sampleUnreviewedRecord }

theorem sampleUnreviewed_keyed : sampleUnreviewed.Keyed := by
  intro id record found
  change (Dict.empty.set "idea-1" sampleUnreviewedRecord).get? id = some record at found
  by_cases own : id = "idea-1"
  · rw [own, Dict.get?_set_self] at found
    cases found
    exact own.symm
  · rw [Dict.get?_set_of_ne _ own, Dict.get?_empty] at found
    cases found

end Sample

end LotusIdea

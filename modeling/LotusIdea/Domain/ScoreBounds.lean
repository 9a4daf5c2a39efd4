import LotusIdea.Domain.Scoring
import LotusIdea.Foundation.Raising
import Mathlib.Data.List.Forall2
import Mathlib.Tactic.Positivity

/-!
# Bounds of scores

A score of weighted inputs is returned when the sum of the weights, as the context
rounds it, is one; it then lies between 0 and 100 and follows its inputs.  The score
of a threshold is quantized before it is clamped, so a value that exceeds the
threshold some 2 * 10^24 times over leaves the digits of the context.
-/

set_option autoImplicit false

namespace LotusIdea

/-! ## Operations of the context -/

theorem rounded_natCast {n : ℕ} (small : n < 10 ^ contextDigits) : rounded (n : ℚ) = n :=
  DecimalContext.round_natCast small

theorem rounded_monotone {x y : ℚ} (le : x ≤ y) : rounded x ≤ rounded y :=
  DecimalContext.round_monotone (by decide) le

theorem rounded_nonneg {x : ℚ} (nonneg : 0 ≤ x) : 0 ≤ rounded x :=
  DecimalContext.round_nonneg nonneg

theorem rounded_le {n : ℕ} (small : n < 10 ^ contextDigits) {x : ℚ} (le : x ≤ n) :
    rounded x ≤ n := by
  rw [← rounded_natCast small]
  exact rounded_monotone le

theorem rounded_neg (x : ℚ) : rounded (-x) = -rounded x :=
  DecimalContext.round_neg x

theorem quantizeScore_natCast (n : ℕ) : quantizeScore n = n := by
  have cents : ⌊|(n : ℚ)| * 100 + 1 / 2⌋ = (n * 100 : ℕ) := by
    rw [Nat.abs_cast, Int.floor_eq_iff]
    push_cast
    constructor <;> linarith
  have nonneg : ¬ (n : ℚ) < 0 := not_lt.mpr n.cast_nonneg
  rw [quantizeScore, cents, if_neg nonneg]
  push_cast
  ring

theorem quantizeScore_neg (x : ℚ) : quantizeScore (-x) = -quantizeScore x := by
  have half : ⌊(2⁻¹ : ℚ)⌋ = 0 := by
    rw [Int.floor_eq_iff]
    norm_num
  simp only [quantizeScore, abs_neg]
  rcases lt_trichotomy x 0 with negative | rfl | positive
  · rw [if_pos negative, if_neg (by linarith)]
    push_cast
    ring
  · simp [half]
  · rw [if_neg (not_lt.mpr positive.le), if_pos (by linarith)]
    push_cast
    ring

theorem quantizeScore_of_nonneg {x : ℚ} (nonneg : 0 ≤ x) :
    quantizeScore x = ⌊x * 100 + 1 / 2⌋ / 100 := by
  rw [quantizeScore, abs_of_nonneg nonneg, if_neg (not_lt.mpr nonneg)]

theorem quantizeScore_nonneg {x : ℚ} (nonneg : 0 ≤ x) : 0 ≤ quantizeScore x := by
  rw [quantizeScore_of_nonneg nonneg]
  have cents : 0 ≤ ⌊x * 100 + 1 / 2⌋ := Int.floor_nonneg.mpr (by linarith)
  have cast : (0 : ℚ) ≤ ⌊x * 100 + 1 / 2⌋ := by exact_mod_cast cents
  linarith

theorem quantizeScore_mono_nonneg {x y : ℚ} (nonneg : 0 ≤ x) (le : x ≤ y) :
    quantizeScore x ≤ quantizeScore y := by
  rw [quantizeScore_of_nonneg nonneg, quantizeScore_of_nonneg (nonneg.trans le)]
  have cents : ⌊x * 100 + 1 / 2⌋ ≤ ⌊y * 100 + 1 / 2⌋ := Int.floor_mono (by linarith)
  have cast : (⌊x * 100 + 1 / 2⌋ : ℚ) ≤ ⌊y * 100 + 1 / 2⌋ := by exact_mod_cast cents
  linarith

theorem quantizeScore_mono {x y : ℚ} (le : x ≤ y) : quantizeScore x ≤ quantizeScore y := by
  rcases le_total 0 x with positive | negative
  · exact quantizeScore_mono_nonneg positive le
  · rcases le_total 0 y with above | below
    · have down := quantizeScore_nonneg (neg_nonneg.mpr negative)
      rw [quantizeScore_neg] at down
      have up := quantizeScore_nonneg above
      linarith
    · have turned := quantizeScore_mono_nonneg (neg_nonneg.mpr below) (neg_le_neg le)
      rw [quantizeScore_neg, quantizeScore_neg] at turned
      linarith

theorem abs_quantizeScore_le {x : ℚ} {n : ℕ} (le : |x| ≤ n) : |quantizeScore x| ≤ n := by
  obtain ⟨low, high⟩ := abs_le.mp le
  rw [abs_le]
  have up := quantizeScore_mono high
  have down := quantizeScore_mono low
  rw [quantizeScore_natCast] at up
  rw [quantizeScore_neg, quantizeScore_natCast] at down
  exact ⟨down, up⟩

theorem quantize_eq_ok {x q : ℚ} : quantize x = .ok q ↔
    |quantizeScore x| * 100 < (10 ^ contextDigits : ℕ) ∧ q = quantizeScore x := by
  have passes : firstFailure
      [(decide ((10 ^ contextDigits : ℕ) ≤ |quantizeScore x| * 100), PyError.invalidOperation)] =
        none ↔ |quantizeScore x| * 100 < (10 ^ contextDigits : ℕ) := by
    rw [firstFailure_cons, decide_eq_false_iff_not, not_le]
    exact and_iff_left rfl
  constructor
  · intro ran
    obtain ⟨_, passed, result⟩ := Except.seq_returns.mp ran
    cases result
    exact ⟨passes.mp (validate_eq_ok.mp passed), rfl⟩
  · rintro ⟨small, rfl⟩
    exact Except.seq_returns.mpr ⟨(), validate_eq_ok.mpr (passes.mpr small), rfl⟩

/-- A number far below the digits of the context is quantized. -/
theorem quantize_returns {x : ℚ} {n : ℕ} (le : |x| ≤ n) (small : n < 10 ^ 26) :
    quantize x = .ok (quantizeScore x) := by
  have bounded := abs_quantizeScore_le le
  have cast : (n : ℚ) * 100 < (10 ^ contextDigits : ℕ) := by
    have whole : n * 100 < 10 ^ contextDigits := by
      rw [contextDigits]
      omega
    exact_mod_cast whole
  exact quantize_eq_ok.mpr ⟨by linarith, rfl⟩

/-! ## Sums of the context -/

theorem decimalSum_append (values : List ℚ) (last : ℚ) :
    decimalSum (values ++ [last]) = rounded (decimalSum values + last) := by
  simp [decimalSum, List.foldl_append]

theorem decimalSum_bounds (values : List ℚ) (each : ∀ v ∈ values, 0 ≤ v ∧ v ≤ 100)
    (few : values.length ≤ 8) :
    0 ≤ decimalSum values ∧ decimalSum values ≤ (100 * values.length : ℕ) := by
  induction values using List.reverseRecOn with
  | nil => simp [decimalSum]
  | append_singleton values last ih =>
      rw [List.length_append, List.length_singleton] at few ⊢
      obtain ⟨nonneg, le⟩ := ih (fun v listed => each v (List.mem_append_left _ listed)) (by omega)
      obtain ⟨lastNonneg, lastLe⟩ := each last (by simp)
      rw [decimalSum_append]
      refine ⟨rounded_nonneg (by linarith), rounded_le (by rw [contextDigits]; omega) ?_⟩
      push_cast at le ⊢
      linarith

/-- Where every value of a list is at least that of another, so is the sum. -/
theorem decimalSum_mono {low high : List ℚ} (le : List.Forall₂ (· ≤ ·) low high) :
    decimalSum low ≤ decimalSum high := by
  have fold (values others : List ℚ) (each : List.Forall₂ (· ≤ ·) values others) (a b : ℚ)
      (less : a ≤ b) :
      values.foldl (fun total value => rounded (total + value)) a ≤
        others.foldl (fun total value => rounded (total + value)) b := by
    induction each generalizing a b with
    | nil => exact less
    | cons first _ ih => exact ih _ _ (rounded_monotone (add_le_add less first))
  exact fold low high le 0 0 le_rfl

/-- Weights of a few digits are summed exactly. -/
theorem decimalSum_exact (parts : List ℕ) (small : parts.sum < 10 ^ contextDigits) (e : ℤ) :
    decimalSum (parts.map fun n : ℕ => (n : ℚ) * 10 ^ e) = (parts.sum : ℕ) * 10 ^ e := by
  induction parts using List.reverseRecOn with
  | nil => simp [decimalSum]
  | append_singleton parts last ih =>
      rw [List.sum_append, List.sum_singleton] at small
      rw [List.map_append, List.map_singleton, decimalSum_append, ih (by omega), ← add_mul,
        List.sum_append, List.sum_singleton]
      have kept := DecimalContext.round_exact small e
      push_cast at kept ⊢
      exact kept

/-! ## Weighted scores -/

theorem requireBoundedScore_passes {value : ℚ} {fieldName : String} :
    (requireBoundedScore value fieldName).1 = false ↔ 0 ≤ value ∧ value ≤ 100 := by
  rw [requireBoundedScore, decide_eq_false_iff_not, not_or, not_lt, not_lt]

theorem IdeaScoringInput.bounds (i : IdeaScoringInput) :
    (0 ≤ i.val.inputScore ∧ i.val.inputScore ≤ 100) ∧ (0 ≤ i.val.weight ∧ i.val.weight ≤ 1) ∧
      i.val.component ≠ .legacyFixedPolicy := by
  have valid := i.valid
  simpa only [IdeaScoringInputFields.checks, requireBoundedScore_passes, firstFailure_cons,
    firstFailure_nil, decide_eq_false_iff_not, not_or, not_lt, and_true] using valid

/-- What an input contributes. -/
def IdeaScoringInput.part (i : IdeaScoringInput) : ℚ :=
  quantizeScore (rounded (i.val.inputScore * i.val.weight))

theorem IdeaScoringInput.product_bounds (i : IdeaScoringInput) :
    0 ≤ rounded (i.val.inputScore * i.val.weight) ∧
      rounded (i.val.inputScore * i.val.weight) ≤ (100 : ℕ) := by
  obtain ⟨⟨scoreNonneg, scoreLe⟩, ⟨weightNonneg, weightLe⟩, -⟩ := i.bounds
  refine ⟨rounded_nonneg (mul_nonneg scoreNonneg weightNonneg), rounded_le (by decide) ?_⟩
  calc i.val.inputScore * i.val.weight ≤ 100 * 1 :=
        mul_le_mul scoreLe weightLe weightNonneg (by norm_num)
    _ = (100 : ℕ) := by norm_num

theorem IdeaScoringInput.part_bounds (i : IdeaScoringInput) : 0 ≤ i.part ∧ i.part ≤ 100 := by
  obtain ⟨nonneg, le⟩ := i.product_bounds
  have upper := quantizeScore_mono le
  rw [quantizeScore_natCast] at upper
  exact ⟨quantizeScore_nonneg nonneg, by exact_mod_cast upper⟩

theorem IdeaScoringInput.contribution_valid (i : IdeaScoringInput) :
    firstFailure (ScoreContributionFields.checks
      ⟨i.val.component, i.val.inputScore, i.val.weight, i.part⟩) = none := by
  obtain ⟨score, weight, -⟩ := i.bounds
  simp only [ScoreContributionFields.checks, requireBoundedScore_passes, firstFailure_cons,
    firstFailure_nil, decide_eq_false_iff_not, not_or, not_lt, and_true]
  exact ⟨score, weight, not_not.mpr rfl⟩

def IdeaScoringInput.contribution (i : IdeaScoringInput) : ScoreContribution :=
  ⟨⟨i.val.component, i.val.inputScore, i.val.weight, i.part⟩, i.contribution_valid⟩

theorem scoreContribution_eq (i : IdeaScoringInput) : scoreContribution i = .ok i.contribution := by
  obtain ⟨nonneg, le⟩ := i.product_bounds
  have small : |rounded (i.val.inputScore * i.val.weight)| ≤ (100 : ℕ) := by
    rwa [abs_of_nonneg nonneg]
  rw [scoreContribution, quantize_returns small (by decide)]
  exact Checked.make_of_valid i.contribution_valid

section Scores
variable {inputs : List IdeaScoringInput} {policy : IdeaScoringPolicy}
  {hasConflictFlags : Bool} {reasonCodes : List ReasonCode}

/-- The penalty of a policy, where there are conflicts. -/
def IdeaScoringPolicy.penalty (policy : IdeaScoringPolicy) (hasConflictFlags : Bool) : ℚ :=
  if hasConflictFlags then policy.val.conflictPenalty else 0

theorem IdeaScoringPolicy.penalty_bounds (policy : IdeaScoringPolicy) (hasConflictFlags : Bool) :
    0 ≤ policy.penalty hasConflictFlags ∧ policy.penalty hasConflictFlags ≤ 100 := by
  have valid := policy.valid
  simp only [IdeaScoringPolicyFields.checks, requireBoundedScore_passes, firstFailure_cons,
    firstFailure_nil, and_true] at valid
  cases hasConflictFlags with
  | false => simp [IdeaScoringPolicy.penalty]
  | true => exact valid.2

/-- The contributions less the penalty. -/
def netScore (inputs : List IdeaScoringInput) (penalty : ℚ) : ℚ :=
  rounded (decimalSum (inputs.map IdeaScoringInput.part) - penalty)

/-- Distinct components are no more than there are. -/
theorem components_few (distinct : (inputs.map fun i => i.val.component).Nodup) :
    inputs.length ≤ 8 := by
  have all : [ScoreComponent.materiality, .urgency, .confidence, .evidenceQuality, .freshness,
      .relevance, .downstreamFit, .legacyFixedPolicy].Nodup := by decide
  have covered : (inputs.map fun i => i.val.component) ⊆ [ScoreComponent.materiality, .urgency,
      .confidence, .evidenceQuality, .freshness, .relevance, .downstreamFit,
      .legacyFixedPolicy] := by
    intro component _
    cases component <;> decide
  have few := (distinct.subperm covered).length_le
  simpa using few

theorem netScore_bounds (distinct : (inputs.map fun i => i.val.component).Nodup)
    (policy : IdeaScoringPolicy) (hasConflictFlags : Bool) :
    |netScore inputs (policy.penalty hasConflictFlags)| ≤ (800 : ℕ) := by
  have few := components_few distinct
  obtain ⟨nonneg, le⟩ := decimalSum_bounds (inputs.map IdeaScoringInput.part) (by
    intro v listed
    obtain ⟨i, -, rfl⟩ := List.mem_map.mp listed
    exact i.part_bounds) (by rwa [List.length_map])
  obtain ⟨penaltyNonneg, penaltyLe⟩ := policy.penalty_bounds hasConflictFlags
  have total : decimalSum (inputs.map IdeaScoringInput.part) ≤ (800 : ℕ) := by
    refine le.trans ?_
    have whole : 100 * (inputs.map IdeaScoringInput.part).length ≤ 800 := by
      rw [List.length_map]
      omega
    exact_mod_cast whole
  rw [abs_le]
  constructor
  · have low : -netScore inputs (policy.penalty hasConflictFlags) ≤ (800 : ℕ) := by
      rw [netScore, ← rounded_neg]
      refine rounded_le (by decide) ?_
      push_cast
      linarith
    linarith
  · refine rounded_le (by decide) ?_
    push_cast at total ⊢
    linarith

/-- The score that weighted inputs come to, with all its codes. -/
def scoreOf (inputs : List IdeaScoringInput) (policy : IdeaScoringPolicy)
    (hasConflictFlags : Bool) (codes : List ReasonCode) : IdeaScoreFields where
  policyVersion := policy.val.policyVersion
  score := min 100 (max 0 (quantizeScore (netScore inputs (policy.penalty hasConflictFlags))))
  reasonCodes := codes
  contributions := inputs.map IdeaScoringInput.contribution
  conflictPenaltyApplied := policy.penalty hasConflictFlags

variable (policy hasConflictFlags) in
/-- Such a score fails no check but that of its weights. -/
theorem scoreOf_valid_iff {codes : List ReasonCode} (some : inputs ≠ []) (told : codes ≠ [])
    (distinct : (inputs.map fun i => i.val.component).Nodup) :
    firstFailure (scoreOf inputs policy hasConflictFlags codes).checks = none ↔
      decimalSum (inputs.map fun i => i.val.weight) = 1 := by
  have version : requireText policy.val.policyVersion "policy_version" ∈
      IdeaScoringPolicyFields.checks policy.val := List.mem_cons_self
  have versioned := firstFailure_eq_none.mp policy.valid _ version
  obtain ⟨penaltyNonneg, penaltyLe⟩ := policy.penalty_bounds hasConflictFlags
  have bounded : ∀ net : ℚ, 0 ≤ min 100 (max 0 net) ∧ min 100 (max 0 net) ≤ 100 := by
    intro net
    exact ⟨le_min (by norm_num) (le_max_left _ _), min_le_left _ _⟩
  simp only [IdeaScoreFields.checks, scoreOf, requireBoundedScore_passes, firstFailure_cons,
    firstFailure_nil, versioned, List.map_map, Function.comp_def, IdeaScoringInput.contribution,
    List.isEmpty_eq_false_iff, told, ne_eq, List.map_eq_nil_iff, some, distinct, bounded,
    decide_eq_false_iff_not, penaltyNonneg, penaltyLe, netScore, not_not, decide_true,
    Bool.not_true, not_false_eq_true, and_true, true_and]

variable (inputs) in
theorem scoreReasonCodes_found : ∃ codes : List ReasonCode,
    (inputs.map IdeaScoringInput.contribution).mapM (fun c =>
      (scoreReasonCodeByComponent c.val.component).elim
        (.error (PyError.keyError c.val.component.value)) Except.ok) = .ok codes ∧
      codes.length = inputs.length := by
  rw [← List.length_map IdeaScoringInput.contribution]
  apply Except.mapM_total
  intro c listed
  obtain ⟨i, -, rfl⟩ := List.mem_map.mp listed
  have sourced := i.bounds.2.2
  change ∃ code, (scoreReasonCodeByComponent i.val.component).elim _ _ = _
  cases component : i.val.component with
  | legacyFixedPolicy => exact absurd component sourced
  | _ => exact ⟨_, rfl⟩

variable (policy hasConflictFlags reasonCodes) in
theorem scoreInputs_eq (some : inputs ≠ [])
    (distinct : (inputs.map fun i => i.val.component).Nodup) :
    ∃ codes, codes ≠ [] ∧ scoreInputs inputs policy hasConflictFlags reasonCodes =
      Checked.make IdeaScoreFields.checks (scoreOf inputs policy hasConflictFlags codes) := by
  have contributed : inputs.mapM scoreContribution =
      .ok (inputs.map IdeaScoringInput.contribution) :=
    Except.mapM_ok fun i _ => scoreContribution_eq i
  have parts : (inputs.map IdeaScoringInput.contribution).map (fun c => c.val.contribution) =
      inputs.map IdeaScoringInput.part := by
    rw [List.map_map]
    rfl
  have net : quantize (rounded (decimalSum (inputs.map IdeaScoringInput.part) -
      policy.penalty hasConflictFlags)) = .ok (quantizeScore (netScore inputs _)) :=
    quantize_returns (netScore_bounds distinct policy hasConflictFlags) (by decide)
  obtain ⟨codes, found, length⟩ := scoreReasonCodes_found inputs
  refine ⟨reasonCodes ++ codes ++ if hasConflictFlags then [.conflictPenalty] else [], ?_, ?_⟩
  · intro none
    simp only [List.append_eq_nil_iff] at none
    rw [none.1.2] at length
    exact some (List.length_eq_zero_iff.mp length.symm)
  · rw [IdeaScoringPolicy.penalty] at net
    simp only [scoreInputs, contributed, bind, Except.bind, parts, net, found]
    rfl

/-- The same components and weights, and no value less. -/
def Raised (low high : List IdeaScoringInput) : Prop :=
  List.Forall₂ (fun a b => b.val.component = a.val.component ∧ b.val.weight = a.val.weight ∧
    a.val.inputScore ≤ b.val.inputScore) low high

theorem Raised.components {low high : List IdeaScoringInput} (raised : Raised low high) :
    (high.map fun i => i.val.component) = low.map fun i => i.val.component := by
  induction raised with
  | nil => rfl
  | cons first _ ih => rw [List.map_cons, List.map_cons, first.1, ih]

theorem Raised.weights {low high : List IdeaScoringInput} (raised : Raised low high) :
    (high.map fun i => i.val.weight) = low.map fun i => i.val.weight := by
  induction raised with
  | nil => rfl
  | cons first _ ih => rw [List.map_cons, List.map_cons, first.2.1, ih]

theorem Raised.parts {low high : List IdeaScoringInput} (raised : Raised low high) :
    List.Forall₂ (· ≤ ·) (low.map IdeaScoringInput.part) (high.map IdeaScoringInput.part) := by
  induction raised with
  | nil => exact .nil
  | @cons a b _ _ first _ ih =>
      refine .cons ?_ ih
      obtain ⟨-, ⟨weightNonneg, -⟩, -⟩ := a.bounds
      rw [IdeaScoringInput.part, IdeaScoringInput.part, first.2.1]
      exact quantizeScore_mono
        (rounded_monotone (mul_le_mul_of_nonneg_right first.2.2 weightNonneg))

theorem Raised.some {low high : List IdeaScoringInput} (raised : Raised low high)
    (some : low ≠ []) : high ≠ [] := by
  cases raised with
  | nil => exact some
  | cons _ _ => exact List.cons_ne_nil _ _

theorem scoreOf_mono {low high : List IdeaScoringInput} (raised : Raised low high)
    (lowCodes highCodes : List ReasonCode) :
    (scoreOf low policy hasConflictFlags lowCodes).score ≤
      (scoreOf high policy hasConflictFlags highCodes).score := by
  have sums := decimalSum_mono raised.parts
  have net : netScore low (policy.penalty hasConflictFlags) ≤
      netScore high (policy.penalty hasConflictFlags) :=
    rounded_monotone (sub_le_sub_right sums _)
  exact min_le_min_left _ (max_le_max_left _ (quantizeScore_mono net))

/-- A score is returned, lies between 0 and 100 and follows its inputs. -/
def ScoresSoundly (inputs : List IdeaScoringInput) (policy : IdeaScoringPolicy)
    (hasConflictFlags : Bool) (reasonCodes : List ReasonCode) : Prop :=
  ∃ score, scoreInputs inputs policy hasConflictFlags reasonCodes = .ok score ∧
    0 ≤ score.val.score ∧ score.val.score ≤ 100 ∧
    ∀ raised, Raised inputs raised → ∃ higher,
      scoreInputs raised policy hasConflictFlags reasonCodes = .ok higher ∧
      score.val.score ≤ higher.val.score

theorem scoresSoundly_iff (some : inputs ≠ [])
    (distinct : (inputs.map fun i => i.val.component).Nodup) :
    ScoresSoundly inputs policy hasConflictFlags reasonCodes ↔
      decimalSum (inputs.map fun i => i.val.weight) = 1 := by
  obtain ⟨codes, told, run⟩ :=
    scoreInputs_eq policy hasConflictFlags reasonCodes some distinct
  constructor
  · rintro ⟨score, ran, -⟩
    rw [run] at ran
    have valid := score.valid
    rw [Checked.make_eq_ok.mp ran] at valid
    exact (scoreOf_valid_iff policy hasConflictFlags some told distinct).mp valid
  · intro whole
    have valid := (scoreOf_valid_iff policy hasConflictFlags some told distinct).mpr whole
    refine ⟨⟨_, valid⟩, run.trans (Checked.make_of_valid valid), ?_, ?_, ?_⟩
    · exact le_min (by norm_num) (le_max_left _ _)
    · exact min_le_left _ _
    intro raised above
    have distinctToo : (raised.map fun i => i.val.component).Nodup := by
      rwa [above.components]
    have wholeToo : decimalSum (raised.map fun i => i.val.weight) = 1 := by
      rwa [above.weights]
    obtain ⟨others, toldToo, runToo⟩ :=
      scoreInputs_eq policy hasConflictFlags reasonCodes (above.some some) distinctToo
    have validToo := (scoreOf_valid_iff policy hasConflictFlags (above.some some) toldToo
      distinctToo).mpr wholeToo
    exact ⟨⟨_, validToo⟩, runToo.trans (Checked.make_of_valid validToo), scoreOf_mono above _ _⟩

end Scores

/-! ## Scores of a threshold -/

/-- What is quantized for a value and its threshold. -/
def attainment (value threshold : ℚ) : ℚ :=
  rounded (50 + rounded (50 * rounded (rounded (value - threshold) / threshold)))

theorem relativeThresholdScore_eq {value threshold : ℚ} (positive : 0 < threshold)
    (met : threshold ≤ value) :
    relativeThresholdScore value threshold =
      (quantize (attainment value threshold)).map (min 100) := by
  have passed : firstFailure
      [(decide (threshold ≤ 0), PyError.valueError "threshold must be positive"),
       (decide (value < threshold), .valueError "value must meet or exceed threshold")] = none := by
    simp [positive, met]
  rw [relativeThresholdScore, validate_eq_ok.mpr passed, attainment]
  rfl

theorem attainment_mono {value threshold higher lower : ℚ} (positive : 0 < lower)
    (met : threshold ≤ value) (more : value ≤ higher) (less : lower ≤ threshold) :
    attainment value threshold ≤ attainment higher lower := by
  have excess : rounded (value - threshold) ≤ rounded (higher - lower) :=
    rounded_monotone (by linarith)
  have nonneg : 0 ≤ rounded (value - threshold) := rounded_nonneg (by linarith)
  have relative : rounded (value - threshold) / threshold ≤ rounded (higher - lower) / lower :=
    div_le_div₀ (nonneg.trans excess) excess positive less
  apply rounded_monotone
  apply add_le_add_right
  apply rounded_monotone
  exact mul_le_mul_of_nonneg_left (rounded_monotone relative) (by norm_num)

theorem attainment_ge {value threshold : ℚ} (positive : 0 < threshold)
    (met : threshold ≤ value) : (50 : ℕ) ≤ attainment value threshold := by
  have least : attainment threshold threshold = (50 : ℕ) := by
    have zero : rounded 0 = 0 := rounded_natCast (n := 0) (by decide)
    have fifty : rounded 50 = 50 := rounded_natCast (n := 50) (by decide)
    rw [attainment, sub_self, zero, zero_div, zero, mul_zero, zero, add_zero, fifty]
    norm_num
  rw [← least]
  exact attainment_mono positive le_rfl met le_rfl

/-- The relative excess from which on the digits of the context do not suffice. -/
def excessLimit : ℚ := 2 * 10 ^ 24 - 1 - 1 / 2000

theorem relativeExcess_large_iff {excess threshold : ℚ} (positive : 0 < threshold)
    (nonneg : 0 ≤ excess) :
    ((2 * 10 ^ 27 - 1000 : ℕ) : ℚ) * 10 ^ (-3 : ℤ) ≤ rounded (excess / threshold) ↔
      excessLimit * threshold ≤ excess := by
  have cut := @DecimalContext.le_round_iff contextDigits (2 * 10 ^ 27 - 1000)
    (by decide) (by decide) (by decide) (-3) _ (div_nonneg nonneg positive.le)
  rw [rounded, cut, le_div_iff₀ positive, excessLimit]
  norm_num

/-- Past the limit the sum has a digit more than the context keeps behind the point. -/
theorem attainment_large {value threshold : ℚ} (positive : 0 < threshold)
    (met : threshold ≤ value) (large : excessLimit * threshold ≤ rounded (value - threshold)) :
    ((10 ^ 26 : ℕ) : ℚ) ≤ attainment value threshold := by
  have nonneg : 0 ≤ rounded (value - threshold) := rounded_nonneg (by linarith)
  have relative := (relativeExcess_large_iff positive nonneg).mpr large
  have scaled : ((10 ^ 26 - 50 : ℕ) : ℚ) ≤
      rounded (50 * rounded (rounded (value - threshold) / threshold)) := by
    rw [← rounded_natCast (n := 10 ^ 26 - 50) (by decide)]
    apply rounded_monotone
    norm_num at relative ⊢
    linarith
  rw [attainment, ← rounded_natCast (n := 10 ^ 26) (by decide)]
  apply rounded_monotone
  norm_num at scaled ⊢
  linarith

theorem attainment_small {value threshold : ℚ} (positive : 0 < threshold)
    (met : threshold ≤ value) (small : rounded (value - threshold) < excessLimit * threshold) :
    attainment value threshold ≤ ((10 ^ 28 - 5 : ℕ) : ℚ) * 10 ^ (-2 : ℤ) := by
  have nonneg : 0 ≤ rounded (value - threshold) := rounded_nonneg (by linarith)
  have below := not_le.mp
    (mt (relativeExcess_large_iff positive nonneg).mp (not_le.mpr small))
  have relative : rounded (rounded (value - threshold) / threshold) ≤
      ((2 * 10 ^ 27 - 1000 - 1 : ℕ) : ℚ) * 10 ^ (-3 : ℤ) :=
    DecimalContext.round_le_pred (by decide) (by decide) (-3) (div_nonneg nonneg positive.le) below
  have scaled : rounded (50 * rounded (rounded (value - threshold) / threshold)) ≤
      ((10 ^ 28 - 5005 : ℕ) : ℚ) * 10 ^ (-2 : ℤ) := by
    rw [← @DecimalContext.round_exact contextDigits (10 ^ 28 - 5005) (by decide)]
    apply rounded_monotone
    norm_num at relative ⊢
    linarith
  rw [attainment,
    ← @DecimalContext.round_exact contextDigits (10 ^ 28 - 5) (by decide)]
  apply rounded_monotone
  norm_num at scaled ⊢
  linarith

theorem quantize_attainment_iff {value threshold : ℚ} (positive : 0 < threshold)
    (met : threshold ≤ value) :
    |quantizeScore (attainment value threshold)| * 100 < (10 ^ contextDigits : ℕ) ↔
      rounded (value - threshold) < excessLimit * threshold := by
  have nonneg : 0 ≤ attainment value threshold :=
    le_trans (by norm_num) (attainment_ge positive met)
  rw [abs_of_nonneg (quantizeScore_nonneg nonneg)]
  constructor
  · intro kept
    by_contra large
    have high := quantizeScore_mono (attainment_large positive met (not_lt.mp large))
    rw [quantizeScore_natCast] at high
    norm_num [contextDigits] at kept high
    linarith
  · intro small
    have low := quantizeScore_mono (attainment_small positive met small)
    have cents : quantizeScore (((10 ^ 28 - 5 : ℕ) : ℚ) * 10 ^ (-2 : ℤ)) =
        ((10 ^ 28 - 5 : ℕ) : ℚ) * 10 ^ (-2 : ℤ) := by
      decide +kernel
    rw [cents] at low
    norm_num [contextDigits] at low ⊢
    linarith

/-- The score is returned, lies between 50 and 100, and follows the value and
opposes the threshold. -/
def ThresholdScoresSoundly (value threshold : ℚ) : Prop :=
  ∃ score, relativeThresholdScore value threshold = .ok score ∧ 50 ≤ score ∧ score ≤ 100 ∧
    ∀ higher lower other, 0 < lower → value ≤ higher → lower ≤ threshold →
      relativeThresholdScore higher lower = .ok other → score ≤ other

theorem relativeThresholdScore_eq_ok {value threshold score : ℚ} (positive : 0 < threshold)
    (met : threshold ≤ value) :
    relativeThresholdScore value threshold = .ok score ↔
      rounded (value - threshold) < excessLimit * threshold ∧
        score = min 100 (quantizeScore (attainment value threshold)) := by
  rw [relativeThresholdScore_eq positive met, ← quantize_attainment_iff positive met]
  constructor
  · intro ran
    cases quantized : quantize (attainment value threshold) with
    | error raised =>
        rw [quantized] at ran
        cases ran
    | ok q =>
        rw [quantized] at ran
        cases ran
        obtain ⟨small, rfl⟩ := quantize_eq_ok.mp quantized
        exact ⟨small, rfl⟩
  · rintro ⟨small, rfl⟩
    rw [quantize_eq_ok.mpr ⟨small, rfl⟩]
    rfl

theorem thresholdScoresSoundly_iff {value threshold : ℚ} (positive : 0 < threshold)
    (met : threshold ≤ value) :
    ThresholdScoresSoundly value threshold ↔
      rounded (value - threshold) < excessLimit * threshold := by
  constructor
  · rintro ⟨score, ran, -⟩
    exact ((relativeThresholdScore_eq_ok positive met).mp ran).1
  · intro small
    refine ⟨_, (relativeThresholdScore_eq_ok positive met).mpr ⟨small, rfl⟩, ?_, ?_, ?_⟩
    · have least := quantizeScore_mono (attainment_ge positive met)
      rw [quantizeScore_natCast] at least
      exact le_min (by norm_num) (by exact_mod_cast least)
    · exact min_le_left _ _
    · intro higher lower other above more less ran
      obtain ⟨-, rfl⟩ :=
        (relativeThresholdScore_eq_ok above (less.trans (met.trans more))).mp ran
      exact min_le_min_left _ (quantizeScore_mono (attainment_mono above met more less))

def sampleScoringInputs : List IdeaScoringInput :=
  [⟨⟨.materiality, 625 / 10, 7 / 10⟩, by decide +kernel⟩,
   ⟨⟨.evidenceQuality, 100, 15 / 100⟩, by decide +kernel⟩,
   ⟨⟨.freshness, 100, 15 / 100⟩, by decide +kernel⟩]

def sampleScoringPolicy : IdeaScoringPolicy :=
  ⟨{ policyVersion := "idea-scoring-v1" }, by decide +kernel⟩

end LotusIdea

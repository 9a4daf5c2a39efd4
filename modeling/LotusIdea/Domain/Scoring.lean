import LotusIdea.Domain.Ideas

/-!
# Scores from weighted evidence

`scoring.py`: the inputs of a score, their weighted sum in cents, and the score
that a threshold and the value that met it give.  The arithmetic of decimals
keeps 28 digits, and a quantized value that needs more of them is refused.
-/

set_option autoImplicit false

namespace LotusIdea

/-- `_quantize`. -/
def quantize (value : ℚ) : Except PyError ℚ := do
  validate [(decide ((10 ^ contextDigits : ℕ) ≤ |quantizeScore value| * 100), .invalidOperation)]
  return quantizeScore value

structure IdeaScoringInputFields where
  component : ScoreComponent
  inputScore : ℚ
  weight : ℚ

def IdeaScoringInputFields.checks (i : IdeaScoringInputFields) : List (Bool × PyError) :=
  [requireBoundedScore i.inputScore "input_score",
   (decide (i.weight < 0 ∨ 1 < i.weight), .valueError "weight must be between 0 and 1"),
   (decide (i.component = .legacyFixedPolicy),
     .valueError "legacy_fixed_policy is not a source-evidence scoring input")]

abbrev IdeaScoringInput := Checked IdeaScoringInputFields.checks

structure IdeaScoringPolicyFields where
  policyVersion : String
  conflictPenalty : ℚ := 15

def IdeaScoringPolicyFields.checks (p : IdeaScoringPolicyFields) : List (Bool × PyError) :=
  [requireText p.policyVersion "policy_version",
   requireBoundedScore p.conflictPenalty "conflict_penalty"]

abbrev IdeaScoringPolicy := Checked IdeaScoringPolicyFields.checks

/-- `_SCORE_REASON_CODE_BY_COMPONENT`. -/
def scoreReasonCodeByComponent : ScoreComponent → Option ReasonCode
  | .materiality => some .materialityScore
  | .urgency => some .urgencyScore
  | .confidence => some .confidenceScore
  | .evidenceQuality => some .evidenceQualityScore
  | .freshness => some .freshnessScore
  | .relevance => some .relevanceScore
  | .downstreamFit => some .downstreamFitScore
  | .legacyFixedPolicy => none

def scoreContribution (input : IdeaScoringInput) : Except PyError ScoreContribution := do
  let contribution ← quantize (rounded (input.val.inputScore * input.val.weight))
  Checked.make ScoreContributionFields.checks
    { component := input.val.component
      inputScore := input.val.inputScore
      weight := input.val.weight
      contribution := contribution }

def scoreInputs (inputs : List IdeaScoringInput) (policy : IdeaScoringPolicy)
    (hasConflictFlags : Bool) (reasonCodes : List ReasonCode) : Except PyError IdeaScore := do
  let contributions ← inputs.mapM scoreContribution
  let total := decimalSum (contributions.map fun c => c.val.contribution)
  let penalty := if hasConflictFlags then policy.val.conflictPenalty else 0
  let net ← quantize (rounded (total - penalty))
  let scoreReasons ← contributions.mapM fun c =>
    (scoreReasonCodeByComponent c.val.component).elim
      (.error (.keyError c.val.component.value)) .ok
  Checked.make IdeaScoreFields.checks
    { policyVersion := policy.val.policyVersion
      score := min 100 (max 0 net)
      reasonCodes :=
        reasonCodes ++ scoreReasons ++ if hasConflictFlags then [.conflictPenalty] else []
      contributions := contributions
      conflictPenaltyApplied := penalty }

/-- `relative_threshold_score`: 50 at the threshold, 100 at twice the threshold. -/
def relativeThresholdScore (value threshold : ℚ) : Except PyError ℚ := do
  validate
    [(decide (threshold ≤ 0), .valueError "threshold must be positive"),
     (decide (value < threshold), .valueError "value must meet or exceed threshold")]
  let relativeExcess := rounded (rounded (value - threshold) / threshold)
  let score ← quantize (rounded (50 + rounded (50 * relativeExcess)))
  return min 100 score

/-- The inputs of a score, each from its component, its value and its weight. -/
def weightedInputs (inputs : List (ScoreComponent × ℚ × ℚ)) :
    Except PyError (List IdeaScoringInput) :=
  inputs.mapM fun (component, inputScore, weight) =>
    Checked.make IdeaScoringInputFields.checks ⟨component, inputScore, weight⟩

/-- `current_complete_materiality_inputs`. -/
def currentCompleteMaterialityInputs (materialityScore : ℚ) : List (ScoreComponent × ℚ × ℚ) :=
  [(.materiality, materialityScore, 7 / 10), (.evidenceQuality, 100, 15 / 100),
   (.freshness, 100, 15 / 100)]

/-- `score_inputs` under a policy of the given version. -/
def evidenceScore (inputs : List (ScoreComponent × ℚ × ℚ)) (policyVersion : String)
    (reasonCodes : List ReasonCode) : Except PyError IdeaScore := do
  let built ← weightedInputs inputs
  let policy ← Checked.make IdeaScoringPolicyFields.checks { policyVersion }
  scoreInputs built policy false reasonCodes

end LotusIdea

import LotusIdea.Application.Effectiveness
import LotusIdea.Domain.ScoreBounds

/-!
# Rates of a whole and of its parts

The rates of the effectiveness report are proportions in steps of a millionth.  The rate
of all families is the mean of the rates of the families, weighted by what they divide
by, and every rate lies between zero and one, exactly where no family counts more than
it divides by.
-/

set_option autoImplicit false

namespace LotusIdea

/-! ## Rates -/

namespace EffectivenessRate

/-- What the function `rate` made of the numerator and the denominator. -/
def Computed (r : EffectivenessRate) : Prop := rate r.numerator r.denominator = .ok r

/-- Between zero and one, where there is a value. -/
def InUnit (r : EffectivenessRate) : Prop := ∀ value, r.value = some value → UnitRate value

/-- The proportion before it is rounded. -/
def proportion (r : EffectivenessRate) : ℚ := r.numerator / r.denominator

/-- The proportion weighted by the denominator. -/
def weighted (r : EffectivenessRate) : ℚ := r.denominator * r.proportion

end EffectivenessRate

/-- The steps of a millionth of a proportion. -/
def proportionSteps (numerator denominator : ℕ) : ℤ :=
  DecimalContext.halfEven (rounded (numerator / denominator) * 10 ^ 6)

theorem rate_zero (numerator : ℕ) : rate numerator 0 = .ok ⟨numerator, 0, none⟩ := rfl

theorem rate_eq_ok {numerator denominator : ℕ} {r : EffectivenessRate} (some : denominator ≠ 0) :
    rate numerator denominator = .ok r ↔
      (proportionSteps numerator denominator).natAbs < 10 ^ contextDigits ∧
        r = ⟨numerator, denominator, .some (proportionSteps numerator denominator / 10 ^ 6)⟩ := by
  simp only [rate, if_neg some, proportionSteps]
  constructor
  · intro ran
    obtain ⟨_, passed, made⟩ := Except.seq_returns.mp ran
    cases made
    have small := requireAll_eq_ok.mp passed
    simp only [firstFailure_cons, decide_eq_false_iff_not, not_le] at small
    exact ⟨small.1, rfl⟩
  · rintro ⟨small, rfl⟩
    refine Except.seq_returns.mpr ⟨(), requireAll_eq_ok.mpr ?_, rfl⟩
    simpa [firstFailure_cons] using small

theorem rate_parts {numerator denominator : ℕ} {r : EffectivenessRate}
    (ran : rate numerator denominator = .ok r) :
    r.numerator = numerator ∧ r.denominator = denominator ∧ r.Computed := by
  have parts : r.numerator = numerator ∧ r.denominator = denominator := by
    by_cases zero : denominator = 0
    · subst zero
      rw [rate_zero] at ran
      cases ran
      exact ⟨rfl, rfl⟩
    · obtain ⟨-, rfl⟩ := (rate_eq_ok zero).mp ran
      exact ⟨rfl, rfl⟩
  refine ⟨parts.1, parts.2, ?_⟩
  rw [EffectivenessRate.Computed, parts.1, parts.2, ran]

theorem proportionSteps_le {numerator denominator bound : ℕ} (some : denominator ≠ 0)
    (small : bound < 10 ^ contextDigits) (le : numerator ≤ bound * denominator) :
    0 ≤ proportionSteps numerator denominator ∧
      proportionSteps numerator denominator ≤ bound * 10 ^ 6 := by
  have positive : (0 : ℚ) < denominator := by
    exact_mod_cast Nat.pos_of_ne_zero some
  have nonneg : (0 : ℚ) ≤ numerator / denominator := by positivity
  constructor
  · apply DecimalContext.halfEven_nonneg
    have kept := rounded_nonneg nonneg
    positivity
  · apply DecimalContext.halfEven_le
    have least : rounded ((numerator : ℚ) / denominator) ≤ bound := by
      apply rounded_le small
      rw [div_le_iff₀ positive]
      exact_mod_cast le
    push_cast
    linarith

/-- A rate is computed where the numerator is no multiple of the denominator that the
context cannot hold. -/
theorem rate_returns {numerator denominator bound : ℕ} (small : bound ≤ 10 ^ 20)
    (le : numerator ≤ bound * denominator ∨ denominator = 0) :
    ∃ r, rate numerator denominator = .ok r := by
  by_cases zero : denominator = 0
  · exact ⟨_, by rw [zero, rate_zero]⟩
  · have room : bound < 10 ^ contextDigits := by
      have wide : 10 ^ 20 < 10 ^ contextDigits := by decide
      omega
    obtain ⟨low, high⟩ := proportionSteps_le zero room (le.resolve_right zero)
    refine ⟨_, (rate_eq_ok zero).mpr ⟨?_, rfl⟩⟩
    have wide : 10 ^ 20 * 10 ^ 6 < 10 ^ contextDigits := by decide
    have scaled : bound * 10 ^ 6 ≤ 10 ^ 20 * 10 ^ 6 := Nat.mul_le_mul_right _ small
    omega

namespace EffectivenessRate

theorem Computed.inUnit {r : EffectivenessRate} (computed : r.Computed)
    (le : r.numerator ≤ r.denominator) : r.InUnit := by
  intro value told
  by_cases zero : r.denominator = 0
  · rw [Computed, zero, rate_zero] at computed
    rw [← Except.ok.inj computed] at told
    cases told
  · obtain ⟨-, made⟩ := (rate_eq_ok zero).mp computed
    have once : r.numerator ≤ 1 * r.denominator := by omega
    obtain ⟨low, high⟩ := proportionSteps_le zero (by decide) once
    rw [made] at told
    cases told
    constructor
    · have whole : (0 : ℚ) ≤ proportionSteps r.numerator r.denominator := by exact_mod_cast low
      positivity
    · rw [div_le_one (by positivity)]
      exact_mod_cast high

/-- Over a denominator of at most ten thousand a greater numerator shows. -/
theorem Computed.le_of_inUnit {r : EffectivenessRate} (computed : r.Computed)
    (some : r.denominator ≠ 0) (small : r.denominator ≤ 10000) (unit : r.InUnit) :
    r.numerator ≤ r.denominator := by
  by_contra above
  obtain ⟨-, made⟩ := (rate_eq_ok some).mp computed
  have positive : (0 : ℚ) < r.denominator := by
    exact_mod_cast Nat.pos_of_ne_zero some
  have past : ((10001 : ℕ) : ℚ) * 10 ^ (-4 : ℤ) ≤ r.numerator / r.denominator := by
    rw [le_div_iff₀ positive]
    have more : (r.denominator : ℚ) + 1 ≤ r.numerator := by
      exact_mod_cast not_le.mp above
    have few : (r.denominator : ℚ) ≤ 10000 := by exact_mod_cast small
    norm_num
    linarith
  have kept := rounded_monotone past
  rw [rounded, DecimalContext.round_exact (by decide)] at kept
  have steps : (1000100 : ℤ) ≤ proportionSteps r.numerator r.denominator := by
    apply DecimalContext.le_halfEven
    norm_num at kept ⊢
    linarith
  have value := (unit _ (by rw [made])).le_one
  rw [div_le_one (by positivity)] at value
  have most : proportionSteps r.numerator r.denominator ≤ 10 ^ 6 := by exact_mod_cast value
  omega

end EffectivenessRate

/-! ## Rates of a whole and of its parts -/

/-- The overall rate divides the populations of the families, is the mean of their
rates weighted by their denominators, and all of them lie between zero and one. -/
structure RateSplits (overall : EffectivenessRate) (families : List EffectivenessRate) :
    Prop where
  numerator : overall.numerator = (families.map fun r => r.numerator).sum
  denominator : overall.denominator = (families.map fun r => r.denominator).sum
  mean : overall.denominator ≠ 0 → overall.proportion =
    (families.map fun r => r.weighted).sum /
      (families.map fun r => (r.denominator : ℚ)).sum
  overallUnit : overall.InUnit
  familyUnit : ∀ r ∈ families, r.InUnit

section Splits
variable {overall : EffectivenessRate} {families : List EffectivenessRate}

theorem weighted_eq {r : EffectivenessRate} (le : r.numerator ≤ r.denominator) :
    r.weighted = r.numerator := by
  by_cases zero : r.denominator = 0
  · have none : r.numerator = 0 := by omega
    simp [EffectivenessRate.weighted, zero, none]
  · have some : (r.denominator : ℚ) ≠ 0 := by exact_mod_cast zero
    rw [EffectivenessRate.weighted, EffectivenessRate.proportion]
    field_simp

theorem weighted_le (r : EffectivenessRate) :
    r.weighted ≤ r.numerator := by
  by_cases zero : r.denominator = 0
  · simp [EffectivenessRate.weighted, zero]
  · have some : (r.denominator : ℚ) ≠ 0 := by exact_mod_cast zero
    rw [EffectivenessRate.weighted, EffectivenessRate.proportion]
    field_simp
    exact le_rfl

theorem sum_le_sum_of_le (families : List EffectivenessRate)
    (each : ∀ r ∈ families, r.numerator ≤ r.denominator) :
    (families.map fun r => r.numerator).sum ≤ (families.map fun r => r.denominator).sum :=
  List.sum_le_sum each

/-- Where the weighted rates have the sum of the numerators, no numerator stands over a
zero denominator. -/
theorem numerator_of_weighted (sums : (families.map fun r => (r.numerator : ℚ)).sum =
      (families.map fun r => r.weighted).sum) :
    ∀ r ∈ families, r.weighted = r.numerator := by
  induction families with
  | nil => simp
  | cons first rest ih =>
      simp only [List.map_cons, List.sum_cons] at sums
      have own := weighted_le first
      have others : (rest.map fun r => r.weighted).sum ≤
          (rest.map fun r => (r.numerator : ℚ)).sum :=
        List.sum_le_sum fun r _ => weighted_le r
      intro r member
      rcases List.mem_cons.mp member with rfl | later
      · linarith
      · exact ih (by linarith) r later

theorem splits_of_le (computed : overall.Computed) (each : ∀ r ∈ families, r.Computed)
    (numerator : overall.numerator = (families.map fun r => r.numerator).sum)
    (denominator : overall.denominator = (families.map fun r => r.denominator).sum)
    (le : ∀ r ∈ families, r.numerator ≤ r.denominator) : RateSplits overall families where
  numerator := numerator
  denominator := denominator
  mean _ := by
    have weighted : (families.map fun r => r.weighted) =
        families.map fun r => (r.numerator : ℚ) :=
      List.map_congr_left fun r member => weighted_eq (le r member)
    rw [weighted, EffectivenessRate.proportion, numerator, denominator]
    push_cast [List.map_map]
    rfl
  overallUnit := by
    apply computed.inUnit
    rw [numerator, denominator]
    exact sum_le_sum_of_le families le
  familyUnit r member := (each r member).inUnit (le r member)

/-- A rate splits over the families exactly where each family counts no more than its
denominator, or nothing is divided. -/
theorem splits_iff (computed : overall.Computed) (each : ∀ r ∈ families, r.Computed)
    (numerator : overall.numerator = (families.map fun r => r.numerator).sum)
    (denominator : overall.denominator = (families.map fun r => r.denominator).sum)
    (small : overall.denominator ≤ 10000) :
    RateSplits overall families ↔
      overall.denominator = 0 ∨ ∀ r ∈ families, r.numerator ≤ r.denominator := by
  constructor
  · intro splits
    by_cases zero : overall.denominator = 0
    · exact .inl zero
    · refine .inr fun r member => ?_
      have positive : (overall.denominator : ℚ) ≠ 0 := by exact_mod_cast zero
      have total : (families.map fun r => (r.denominator : ℚ)).sum = overall.denominator := by
        rw [denominator]
        push_cast [List.map_map]
        rfl
      have sums := splits.mean zero
      rw [total, EffectivenessRate.proportion, div_left_inj' positive, numerator] at sums
      push_cast [List.map_map] at sums
      have weighted := numerator_of_weighted sums r member
      by_cases none : r.denominator = 0
      · rw [EffectivenessRate.weighted, none, Nat.cast_zero, zero_mul] at weighted
        have zero : r.numerator = 0 := by exact_mod_cast weighted.symm
        omega
      · have within : r.denominator ≤ overall.denominator := by
          rw [denominator]
          exact List.single_le_sum (by simp) _ (List.mem_map_of_mem member)
        exact (each r member).le_of_inUnit none (by omega) (splits.familyUnit r member)
  · rintro (zero | le)
    · have none : ∀ r ∈ families, r.denominator = 0 := by
        intro r member
        have within := List.single_le_sum (by simp) _
          (List.mem_map_of_mem (f := fun r : EffectivenessRate => r.denominator) member)
        omega
      have unit : ∀ r : EffectivenessRate, r.Computed → r.denominator = 0 → r.InUnit := by
        intro r made empty value told
        rw [EffectivenessRate.Computed, empty, rate_zero] at made
        rw [← Except.ok.inj made] at told
        cases told
      exact
        { numerator := numerator
          denominator := denominator
          mean := fun some => absurd zero some
          overallUnit := unit overall computed zero
          familyUnit := fun r member => unit r (each r member) (none r member) }
    · exact splits_of_le computed each numerator denominator le

end Splits

end LotusIdea

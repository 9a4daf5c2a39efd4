import LotusIdea.Foundation.DecimalContext

/-!
# Numbers of a few bits

The rational numbers that a floating point number of so many significant bits comes
to, a tie going to the even one.  Whole numbers of that many bits are kept, and a
number is told from a whole one below it when they are half a bit apart.
-/

set_option autoImplicit false

namespace BinaryFloat
open DecimalContext (halfEven)

variable {bits : ℕ}

/-- The power of two of the last bit that is kept. -/
def place (bits : ℕ) (x : ℚ) : ℤ := Int.log 2 |x| - (bits - 1)

/-- `x` with `bits` significant bits. -/
def round (bits : ℕ) (x : ℚ) : ℚ := halfEven (x / 2 ^ place bits x) * 2 ^ place bits x

theorem two_zpow_pos (e : ℤ) : (0 : ℚ) < 2 ^ e := zpow_pos (by norm_num) e

theorem place_le {x : ℚ} {e : ℕ} (positive : 0 < x) (small : x < 2 ^ e) :
    place bits x ≤ e - bits := by
  have log : Int.log 2 x < e := by
    rw [← Int.lt_zpow_iff_log_lt (by decide) positive, zpow_natCast]
    exact_mod_cast small
  rw [place, abs_of_pos positive]
  omega

theorem round_le {x : ℚ} {n : ℕ} (nonneg : 0 ≤ x) (le : x ≤ n) (fits : n < 2 ^ bits) :
    round bits x ≤ n := by
  rcases nonneg.eq_or_lt with rfl | positive
  · simp [round, halfEven]
  have unit := two_zpow_pos (place bits x)
  have below : place bits x ≤ bits - bits := by
    have small : x < 2 ^ bits := lt_of_le_of_lt le (by exact_mod_cast fits)
    exact place_le positive small
  -- the number is a whole multiple of the last bit
  obtain ⟨further, exponent⟩ : ∃ further : ℕ, place bits x = -further :=
    ⟨(-place bits x).toNat, by omega⟩
  have whole : (n : ℚ) / 2 ^ place bits x = ((n * 2 ^ further : ℕ) : ℤ) := by
    rw [exponent, zpow_neg, zpow_natCast, div_inv_eq_mul]
    push_cast
    ring
  have quotient : x / 2 ^ place bits x ≤ (((n * 2 ^ further : ℕ) : ℤ) : ℚ) := by
    rw [← whole]
    exact div_le_div_of_nonneg_right le unit.le
  calc round bits x ≤ ((n * 2 ^ further : ℕ) : ℤ) * 2 ^ place bits x := by
        apply mul_le_mul_of_nonneg_right _ unit.le
        exact_mod_cast DecimalContext.halfEven_le quotient
    _ = n := by rw [← whole, div_mul_cancel₀ _ unit.ne']

theorem lt_round {x y : ℚ} (apart : y + 2 ^ place bits x / 2 < x) : y < round bits x := by
  have unit := two_zpow_pos (place bits x)
  have near := DecimalContext.sub_half_le_halfEven (x / 2 ^ place bits x)
  have scaled := mul_le_mul_of_nonneg_right near unit.le
  rw [sub_mul, div_mul_cancel₀ _ unit.ne'] at scaled
  rw [round]
  linarith

/-- A number at least `2 ^ (e - bits)` from a whole one, if above it, is compared exactly. -/
theorem round_le_iff {x : ℚ} {n e : ℕ} (nonneg : 0 ≤ x) (small : x < 2 ^ e) (fits : n < 2 ^ bits)
    (apart : (n : ℚ) < x → n + 2 ^ ((e : ℤ) - bits) / 2 < x) : round bits x ≤ n ↔ x ≤ n := by
  constructor
  · intro reached
    by_contra above
    rw [not_le] at above
    have positive : 0 < x := lt_of_le_of_lt n.cast_nonneg above
    have unit : (2 : ℚ) ^ place bits x ≤ 2 ^ ((e : ℤ) - bits) :=
      zpow_le_zpow_right₀ (by norm_num) (place_le positive small)
    have far := apart above
    have kept : (n : ℚ) < round bits x := lt_round (by linarith)
    linarith
  · intro le
    exact round_le nonneg le fits

end BinaryFloat

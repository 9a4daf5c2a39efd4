import Mathlib.Algebra.Order.Field.Rat
import Mathlib.Algebra.Order.Round
import Mathlib.Data.Int.Log
import Mathlib.Data.Rat.Floor
import Mathlib.Data.Rat.Cast.Order
import Mathlib.Tactic.FieldSimp
import Mathlib.Tactic.Linarith
import Mathlib.Tactic.Ring

/-!
# Arithmetic in a decimal context

Rational numbers rounded to a number of significant decimal digits, a tie going
to the even digit: what `+`, `-`, `*`, `/` and `abs` of `decimal` make of the
exact result.  Numbers of a few digits are kept, and the rounding is monotone.
-/

set_option autoImplicit false

namespace DecimalContext

/-! ## The nearest integer -/

/-- The nearest integer; of two, the even one. -/
def halfEven (x : ℚ) : ℤ :=
  if Int.fract x < 1 / 2 then ⌊x⌋
  else if 1 / 2 < Int.fract x then ⌊x⌋ + 1
  else if ⌊x⌋ % 2 = 0 then ⌊x⌋ else ⌊x⌋ + 1

theorem halfEven_intCast (n : ℤ) : halfEven n = n := by
  simp [halfEven]

theorem floor_le_halfEven (x : ℚ) : ⌊x⌋ ≤ halfEven x := by
  unfold halfEven
  split_ifs <;> omega

theorem halfEven_le_floor (x : ℚ) : halfEven x ≤ ⌊x⌋ + 1 := by
  unfold halfEven
  split_ifs <;> omega

/-- No more than half a unit is lost. -/
theorem sub_half_le_halfEven (x : ℚ) : x - 1 / 2 ≤ halfEven x := by
  have rest := Int.floor_add_fract x
  have part := Int.fract_lt_one x
  unfold halfEven
  split_ifs with low high even
  · linarith
  · push_cast
    linarith
  · linarith
  · push_cast
    linarith

theorem halfEven_mono {x y : ℚ} (le : x ≤ y) : halfEven x ≤ halfEven y := by
  have floors : ⌊x⌋ ≤ ⌊y⌋ := Int.floor_mono le
  by_cases same : ⌊x⌋ = ⌊y⌋
  · -- the rests are ordered as the numbers are
    have rests : Int.fract x ≤ Int.fract y := by
      simp only [Int.fract, same]
      linarith
    unfold halfEven
    rw [same]
    split_ifs <;> first | omega | (exfalso; linarith)
  · calc halfEven x ≤ ⌊x⌋ + 1 := halfEven_le_floor x
      _ ≤ ⌊y⌋ := by omega
      _ ≤ halfEven y := floor_le_halfEven y

theorem halfEven_nonneg {x : ℚ} (nonneg : 0 ≤ x) : 0 ≤ halfEven x :=
  (Int.floor_nonneg.mpr nonneg).trans (floor_le_halfEven x)

theorem halfEven_neg (x : ℚ) : halfEven (-x) = -halfEven x := by
  rcases eq_or_ne (Int.fract x) 0 with whole | part
  · obtain ⟨n, rfl⟩ := Int.fract_eq_zero_iff.mp whole
    rw [← Int.cast_neg, halfEven_intCast, halfEven_intCast]
  · have rest : Int.fract (-x) = 1 - Int.fract x := Int.fract_neg part
    have floor : ⌊-x⌋ = -⌊x⌋ - 1 := by
      have sum := Int.floor_add_fract (-x)
      have own := Int.floor_add_fract x
      rw [rest] at sum
      have equal : ((⌊-x⌋ : ℤ) : ℚ) = ((-⌊x⌋ - 1 : ℤ) : ℚ) := by
        push_cast
        linarith
      exact_mod_cast equal
    unfold halfEven
    rw [rest, floor]
    split_ifs <;> first | omega | (exfalso; linarith)

theorem le_halfEven {n : ℤ} {x : ℚ} (le : (n : ℚ) ≤ x) : n ≤ halfEven x :=
  (Int.le_floor.mpr le).trans (floor_le_halfEven x)

theorem halfEven_le {n : ℤ} {x : ℚ} (le : x ≤ n) : halfEven x ≤ n := by
  have mono := halfEven_mono le
  rwa [halfEven_intCast] at mono

/-- An even number is reached from one half below it on. -/
theorem even_le_halfEven {n : ℤ} (even : n % 2 = 0) {x : ℚ} :
    n ≤ halfEven x ↔ (n : ℚ) - 1 / 2 ≤ x := by
  constructor
  · intro reached
    by_contra below
    rw [not_le] at below
    have small : halfEven x ≤ n - 1 := by
      have floorSmall : ⌊x⌋ ≤ n - 1 := by
        have : (⌊x⌋ : ℚ) < n := (Int.floor_le x).trans_lt (by linarith)
        have : ⌊x⌋ < n := by exact_mod_cast this
        omega
      by_cases last : ⌊x⌋ = n - 1
      · have rest : Int.fract x < 1 / 2 := by
          simp only [Int.fract, last]
          push_cast
          linarith
        rw [halfEven, if_pos rest]
        omega
      · have := halfEven_le_floor x
        omega
    omega
  · intro near
    have half : halfEven ((n : ℚ) - 1 / 2) = n := by
      have floor : ⌊(n : ℚ) - 1 / 2⌋ = n - 1 := by
        rw [Int.floor_eq_iff]
        push_cast
        constructor <;> linarith
      have rest : Int.fract ((n : ℚ) - 1 / 2) = 1 / 2 := by
        simp only [Int.fract, floor]
        push_cast
        ring
      rw [halfEven, rest, floor, if_neg (lt_irrefl _), if_neg (lt_irrefl _), if_neg (by omega)]
      omega
    rw [← half]
    exact halfEven_mono near

/-! ## Significant digits -/

section Digits
variable {digits : ℕ}

/-- The power of ten of the last digit that is kept. -/
def place (digits : ℕ) (x : ℚ) : ℤ := Int.log 10 |x| - (digits - 1)

/-- `x` with `digits` significant digits. -/
def round (digits : ℕ) (x : ℚ) : ℚ := halfEven (x / 10 ^ place digits x) * 10 ^ place digits x

theorem ten_zpow_pos (e : ℤ) : (0 : ℚ) < 10 ^ e := zpow_pos (by norm_num) e

theorem round_nonneg {x : ℚ} (nonneg : 0 ≤ x) : 0 ≤ round digits x := by
  have unit := ten_zpow_pos (place digits x)
  have whole : (0 : ℤ) ≤ halfEven (x / 10 ^ place digits x) :=
    halfEven_nonneg (div_nonneg nonneg unit.le)
  exact mul_nonneg (by exact_mod_cast whole) unit.le

theorem round_neg (x : ℚ) : round digits (-x) = -round digits x := by
  rw [round, round, place, place, abs_neg, neg_div, halfEven_neg]
  push_cast
  ring

/-- The leading power of ten stays below, the next one above. -/
theorem round_within {x : ℚ} (positive : 0 < x) (some : 0 < digits) :
    (10 : ℚ) ^ Int.log 10 x ≤ round digits x ∧ round digits x ≤ 10 ^ (Int.log 10 x + 1) := by
  have unit := ten_zpow_pos (place digits x)
  have base : (10 : ℚ) ≠ 0 := by norm_num
  have low : (10 : ℚ) ^ Int.log 10 x = ((10 ^ (digits - 1) : ℕ) : ℤ) * 10 ^ place digits x := by
    rw [place, abs_of_pos positive]
    push_cast
    rw [← zpow_natCast, ← zpow_add₀ base]
    congr 1
    omega
  have high : (10 : ℚ) ^ (Int.log 10 x + 1) = ((10 ^ digits : ℕ) : ℤ) * 10 ^ place digits x := by
    rw [place, abs_of_pos positive]
    push_cast
    rw [← zpow_natCast, ← zpow_add₀ base]
    congr 1
    omega
  constructor
  · have reached : (((10 ^ (digits - 1) : ℕ) : ℤ) : ℚ) ≤ x / 10 ^ place digits x := by
      rw [le_div_iff₀ unit, ← low]
      exact_mod_cast Int.zpow_log_le_self (b := 10) (by decide) positive
    rw [low]
    exact mul_le_mul_of_nonneg_right (by exact_mod_cast le_halfEven reached) unit.le
  · have bounded : x / 10 ^ place digits x ≤ (((10 ^ digits : ℕ) : ℤ) : ℚ) := by
      rw [div_le_iff₀ unit, ← high]
      exact_mod_cast (Int.lt_zpow_succ_log_self (b := 10) (by decide) x).le
    rw [high]
    exact mul_le_mul_of_nonneg_right (by exact_mod_cast halfEven_le bounded) unit.le

theorem round_pos {x : ℚ} (positive : 0 < x) (some : 0 < digits) : 0 < round digits x :=
  (ten_zpow_pos _).trans_le (round_within positive some).1

theorem round_mono {x y : ℚ} (nonneg : 0 ≤ x) (le : x ≤ y) (some : 0 < digits) :
    round digits x ≤ round digits y := by
  rcases nonneg.eq_or_lt with zero | positive
  · rw [← zero] at le ⊢
    calc round digits 0 = 0 := by simp [round, halfEven]
      _ ≤ round digits y := round_nonneg le
  · have positiveToo : 0 < y := positive.trans_le le
    have logs : Int.log 10 x ≤ Int.log 10 y := Int.log_mono_right positive le
    by_cases same : Int.log 10 x = Int.log 10 y
    · have places : place digits x = place digits y := by
        rw [place, place, abs_of_pos positive, abs_of_pos positiveToo, same]
      have unit := ten_zpow_pos (place digits y)
      simp only [round, places]
      apply mul_le_mul_of_nonneg_right _ unit.le
      exact_mod_cast halfEven_mono (div_le_div_of_nonneg_right le unit.le)
    · calc round digits x ≤ 10 ^ (Int.log 10 x + 1) := (round_within positive some).2
        _ ≤ 10 ^ Int.log 10 y := zpow_le_zpow_right₀ (by norm_num) (by omega)
        _ ≤ round digits y := (round_within positiveToo some).1

/-- A number of so few digits is kept. -/
theorem round_exact {n : ℕ} (small : n < 10 ^ digits) (e : ℤ) :
    round digits (n * 10 ^ e) = n * 10 ^ e := by
  rcases Nat.eq_zero_or_pos n with rfl | positive
  · simp [round, halfEven]
  · have base : (10 : ℚ) ≠ 0 := by norm_num
    have some : 0 < digits := by
      by_contra none
      have : digits = 0 := by omega
      subst this
      omega
    have whole : (0 : ℚ) < n * 10 ^ e := by
      have := ten_zpow_pos e
      positivity
    have lead : Int.log 10 ((n : ℚ) * 10 ^ e) < digits + e := by
      have small : (n : ℚ) * 10 ^ e < 10 ^ ((digits : ℤ) + e) := by
        rw [zpow_add₀ base, zpow_natCast]
        exact mul_lt_mul_of_pos_right (by exact_mod_cast small) (ten_zpow_pos e)
      exact (Int.lt_zpow_iff_log_lt (by decide) whole).mp (by exact_mod_cast small)
    obtain ⟨extra, exponent⟩ : ∃ extra : ℕ, e = place digits ((n : ℚ) * 10 ^ e) + extra := by
      refine ⟨(e - place digits ((n : ℚ) * 10 ^ e)).toNat, ?_⟩
      rw [place, abs_of_pos whole]
      omega
    rw [round]
    generalize place digits ((n : ℚ) * 10 ^ e) = unit at exponent
    have quotient : (n : ℚ) * 10 ^ e / 10 ^ unit = ((n * 10 ^ extra : ℕ) : ℤ) := by
      rw [exponent, zpow_add₀ base, zpow_natCast]
      push_cast
      field_simp
    rw [quotient, halfEven_intCast, ← quotient, div_mul_cancel₀ _ (ten_zpow_pos unit).ne']

theorem round_natCast {n : ℕ} (small : n < 10 ^ digits) : round digits (n : ℚ) = n := by
  have kept := round_exact small 0
  simpa using kept

theorem round_monotone (some : 0 < digits) {x y : ℚ} (le : x ≤ y) :
    round digits x ≤ round digits y := by
  rcases le_total 0 x with positive | negative
  · exact round_mono positive le some
  · rcases le_total 0 y with above | below
    · -- zero lies between the two
      have down : 0 ≤ round digits (-x) := round_nonneg (by linarith)
      rw [round_neg] at down
      have up : 0 ≤ round digits y := round_nonneg above
      linarith
    · have turned : round digits (-y) ≤ round digits (-x) :=
        round_mono (by linarith) (by linarith) some
      rw [round_neg, round_neg] at turned
      linarith

theorem place_of_decade {x : ℚ} {e : ℤ} (some : 0 < digits)
    (low : (10 ^ (digits - 1) : ℕ) * 10 ^ e ≤ x) (high : x < (10 ^ digits : ℕ) * 10 ^ e) :
    place digits x = e := by
  have base : (10 : ℚ) ≠ 0 := by norm_num
  have positive : 0 < x := by
    have := ten_zpow_pos e
    exact lt_of_lt_of_le (by positivity) low
  have lower : (digits : ℤ) - 1 + e ≤ Int.log 10 x := by
    rw [← Int.zpow_le_iff_le_log (by decide) positive]
    have power : ((10 : ℕ) : ℚ) ^ ((digits : ℤ) - 1 + e) = (10 ^ (digits - 1) : ℕ) * 10 ^ e := by
      have exponent : (digits : ℤ) - 1 = ((digits - 1 : ℕ) : ℤ) := by omega
      rw [exponent]
      push_cast
      rw [zpow_add₀ base, zpow_natCast]
    rw [power]
    exact low
  have upper : Int.log 10 x < digits + e := by
    rw [← Int.lt_zpow_iff_log_lt (by decide) positive]
    have power : ((10 : ℕ) : ℚ) ^ ((digits : ℤ) + e) = (10 ^ digits : ℕ) * 10 ^ e := by
      push_cast
      rw [zpow_add₀ base, zpow_natCast]
    rw [power]
    exact high
  rw [place, abs_of_pos positive]
  omega

/-- The middle between two neighbouring numbers of `digits` digits goes to the even one. -/
theorem le_round_iff {n : ℕ} (even : n % 2 = 0) (large : 10 ^ (digits - 1) < n)
    (small : n < 10 ^ digits) (e : ℤ) {x : ℚ} (nonneg : 0 ≤ x) :
    (n : ℚ) * 10 ^ e ≤ round digits x ↔ ((n : ℚ) - 1 / 2) * 10 ^ e ≤ x := by
  have unit := ten_zpow_pos e
  have some : 0 < digits := by
    by_contra none
    have : digits = 0 := by omega
    subst this
    omega
  have least : 10 ^ (digits - 1) < 10 ^ digits := Nat.pow_lt_pow_right (by decide) (by omega)
  have above : ((10 ^ (digits - 1) : ℕ) : ℚ) + 1 ≤ n := by exact_mod_cast large
  have below : (n : ℚ) < (10 ^ digits : ℕ) := by exact_mod_cast small
  by_cases low : ((10 ^ (digits - 1) : ℕ) : ℚ) * 10 ^ e ≤ x
  · by_cases high : x < (10 ^ digits : ℕ) * 10 ^ e
    · have decided := even_le_halfEven (n := n) (by omega) (x := x / 10 ^ e)
      rw [Int.cast_natCast, le_div_iff₀ unit] at decided
      rw [round, place_of_decade some low high, mul_le_mul_iff_left₀ unit, ← decided]
      exact_mod_cast Iff.rfl
    · rw [not_lt] at high
      have power : ((10 ^ digits : ℕ) : ℚ) * 10 ^ e = (1 : ℕ) * 10 ^ ((digits : ℤ) + e) := by
        rw [zpow_add₀ (by norm_num), zpow_natCast]
        push_cast
        ring
      have kept : round digits (((10 ^ digits : ℕ) : ℚ) * 10 ^ e) = (10 ^ digits : ℕ) * 10 ^ e := by
        rw [power]
        exact round_exact (Nat.one_lt_pow (by omega) (by decide)) _
      have reached : round digits ((10 ^ digits : ℕ) * 10 ^ e) ≤ round digits x :=
        round_mono (by positivity) high some
      rw [kept] at reached
      have left : (n : ℚ) * 10 ^ e ≤ round digits x :=
        (mul_le_mul_of_nonneg_right below.le unit.le).trans reached
      have right : ((n : ℚ) - 1 / 2) * 10 ^ e ≤ x :=
        (mul_le_mul_of_nonneg_right (by linarith) unit.le).trans high
      exact iff_of_true left right
  · rw [not_le] at low
    have reached : round digits x ≤ round digits ((10 ^ (digits - 1) : ℕ) * 10 ^ e) :=
      round_mono nonneg low.le some
    rw [round_exact least e] at reached
    have gap : ((10 ^ (digits - 1) : ℕ) : ℚ) * 10 ^ e < ((n : ℚ) - 1 / 2) * 10 ^ e :=
      mul_lt_mul_of_pos_right (by linarith) unit
    have further : ((n : ℚ) - 1 / 2) * 10 ^ e < n * 10 ^ e :=
      mul_lt_mul_of_pos_right (by linarith) unit
    exact iff_of_false (by linarith) (by linarith)

/-- Below such a number of `digits` digits comes the one that is a step less. -/
theorem round_le_pred {n : ℕ} (large : 10 ^ (digits - 1) < n) (small : n < 10 ^ digits) (e : ℤ)
    {x : ℚ} (nonneg : 0 ≤ x) (less : round digits x < n * 10 ^ e) :
    round digits x ≤ (n - 1 : ℕ) * 10 ^ e := by
  have unit := ten_zpow_pos e
  have some : 0 < digits := by
    by_contra none
    have : digits = 0 := by omega
    subst this
    omega
  by_cases low : x ≤ (n - 1 : ℕ) * 10 ^ e
  · have reached : round digits x ≤ round digits ((n - 1 : ℕ) * 10 ^ e) :=
      round_mono nonneg low some
    rwa [round_exact (by omega)] at reached
  · rw [not_le] at low
    have high : x < (10 ^ digits : ℕ) * 10 ^ e := by
      by_contra above
      have top : (n : ℚ) * 10 ^ e ≤ x := by
        calc (n : ℚ) * 10 ^ e ≤ (10 ^ digits : ℕ) * 10 ^ e := by
              apply mul_le_mul_of_nonneg_right _ unit.le
              exact_mod_cast small.le
          _ ≤ x := not_lt.mp above
      have reached : round digits (n * 10 ^ e) ≤ round digits x :=
        round_mono (by positivity) top some
      rw [round_exact small] at reached
      exact absurd less (not_lt.mpr reached)
    have decade : ((10 ^ (digits - 1) : ℕ) : ℚ) * 10 ^ e ≤ x := by
      apply le_trans _ low.le
      apply mul_le_mul_of_nonneg_right _ unit.le
      exact_mod_cast (by omega : 10 ^ (digits - 1) ≤ n - 1)
    rw [round, place_of_decade some decade high] at less ⊢
    have whole : halfEven (x / 10 ^ e) < n := by
      have cast : (halfEven (x / 10 ^ e) : ℚ) < n := lt_of_mul_lt_mul_right less unit.le
      exact_mod_cast cast
    apply mul_le_mul_of_nonneg_right _ unit.le
    have pred : halfEven (x / 10 ^ e) ≤ ((n - 1 : ℕ) : ℤ) := by omega
    exact_mod_cast pred

end Digits

end DecimalContext

/-- A finite `Decimal`: its sign, its coefficient and the power of ten it stands at. -/
structure Decimal where
  negative : Bool
  coefficient : ℕ
  exponent : ℤ
  deriving DecidableEq, Repr

namespace Decimal

def value (d : Decimal) : ℚ := (if d.negative then -1 else 1) * d.coefficient * 10 ^ d.exponent

/-- `"%+d" % n`. -/
def signedText (n : ℤ) : List Char := (if n < 0 then '-' else '+') :: Nat.toDigits 10 n.natAbs

/-- The digits with the point in its place. -/
def pointed (digits : List Char) (dotPlace : ℤ) : List Char :=
  if dotPlace ≤ 0 then '0' :: '.' :: (List.replicate (-dotPlace).toNat '0' ++ digits)
  else if (digits.length : ℤ) ≤ dotPlace then
    digits ++ List.replicate (dotPlace - digits.length).toNat '0'
  else digits.take dotPlace.toNat ++ '.' :: digits.drop dotPlace.toNat

/-- `str(d)`: scientific notation for positive exponents and for small numbers. -/
def str (d : Decimal) : String :=
  let digits := Nat.toDigits 10 d.coefficient
  let leftDigits : ℤ := d.exponent + digits.length
  let dotPlace : ℤ := if d.exponent ≤ 0 ∧ -6 < leftDigits then leftDigits else 1
  let power := if leftDigits = dotPlace then [] else 'E' :: signedText (leftDigits - dotPlace)
  String.ofList ((if d.negative then ['-'] else []) ++ pointed digits dotPlace ++ power)

example : [str ⟨false, 30, -2⟩, str ⟨true, 5, 0⟩, str ⟨false, 125, -9⟩, str ⟨false, 12, 3⟩] =
    ["0.30", "-5", "1.25E-7", "1.2E+4"] := by decide

end Decimal

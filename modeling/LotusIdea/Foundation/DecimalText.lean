import LotusIdea.Foundation.Calendar
import Mathlib.Data.Nat.Prime.Basic
import Mathlib.Data.Rat.Defs
import Mathlib.Data.Rat.Lemmas
import Mathlib.Algebra.Order.Field.Rat
import Mathlib.Tactic.FieldSimp
import Mathlib.Tactic.Ring

/-!
# The texts of decimals

A `Decimal` is its value here, so its text is the shortest plain one: the text
of `str` up to trailing zeros and the notation with an exponent, which name the
same value.
-/

set_option autoImplicit false

namespace PyDecimal

open DigitText

/-- The values a `Decimal` can have: fractions of a power of ten. -/
def IsDecimal (q : ℚ) : Prop := ∃ places, q.den ∣ 10 ^ places

/-- How many digits stand behind the point. -/
def places (q : ℚ) : Nat :=
  ((List.range (q.den.log2 + 1)).find? fun k => 10 ^ k % q.den = 0).getD 0

def unsignedText (digits k : Nat) : List Char :=
  Nat.toDigits 10 (digits / 10 ^ k) ++
    if k = 0 then [] else '.' :: DateTime.padded k (digits % 10 ^ k)

/-- `str(value)`. -/
def text (q : ℚ) : String :=
  let size := unsignedText (q.num.natAbs * (10 ^ places q / q.den)) (places q)
  String.ofList (if q < 0 then '-' :: size else size)

def readUnsigned (text : List Char) : Option ℚ :=
  let whole := text.takeWhile Char.isDigit
  if whole = [] then none
  else match text.dropWhile Char.isDigit with
    | [] => some (Nat.ofDigitChars 10 whole 0 : ℚ)
    | '.' :: fraction =>
        if fraction ≠ [] ∧ fraction.all Char.isDigit = true then
          some ((Nat.ofDigitChars 10 (whole ++ fraction) 0 : ℚ) / 10 ^ fraction.length)
        else none
    | _ => none

/-- `Decimal(text)` on plain texts. -/
def read (text : String) : Option ℚ :=
  match text.toList with
  | '-' :: rest => (readUnsigned rest).map fun value => -value
  | rest => readUnsigned rest

example : read (text (85 / 4)) = some (85 / 4) := by decide +kernel

/-- A divisor of a power of ten divides the power of its own size. -/
theorem dvd_ten_pow_log2 {d k : Nat} (divides : d ∣ 10 ^ k) : d ∣ 10 ^ d.log2 := by
  have factors : d ∣ 2 ^ k * 5 ^ k := by
    rw [← Nat.mul_pow]
    exact divides
  obtain ⟨x, y, two, five, product⟩ := (Nat.dvd_mul).mp factors
  obtain ⟨a, -, rfl⟩ := (Nat.dvd_prime_pow Nat.prime_two).mp two
  obtain ⟨b, -, rfl⟩ := (Nat.dvd_prime_pow Nat.prime_five).mp five
  have positive : d ≠ 0 := by
    rintro rfl
    simp at divides
  have twoSmall : a ≤ d.log2 := by
    rw [Nat.le_log2 positive, ← product]
    exact Nat.le_mul_of_pos_right _ (by positivity)
  have fiveSmall : b ≤ d.log2 := by
    rw [Nat.le_log2 positive, ← product]
    calc 2 ^ b ≤ 5 ^ b := Nat.pow_le_pow_left (by decide) b
      _ ≤ 2 ^ a * 5 ^ b := Nat.le_mul_of_pos_left _ (by positivity)
  calc d = 2 ^ a * 5 ^ b := product.symm
    _ ∣ 2 ^ d.log2 * 5 ^ d.log2 :=
      Nat.mul_dvd_mul (pow_dvd_pow 2 twoSmall) (pow_dvd_pow 5 fiveSmall)
    _ = 10 ^ d.log2 := by rw [← Nat.mul_pow]

theorem den_dvd_places {q : ℚ} (decimal : IsDecimal q) : q.den ∣ 10 ^ places q := by
  obtain ⟨k, divides⟩ := decimal
  have enough := dvd_ten_pow_log2 divides
  have found : ((List.range (q.den.log2 + 1)).find?
      fun k => 10 ^ k % q.den = 0).isSome = true := by
    rw [List.find?_isSome]
    exact ⟨q.den.log2, by simp, by simpa using Nat.mod_eq_zero_of_dvd enough⟩
  obtain ⟨least, found⟩ := Option.isSome_iff_exists.mp found
  have divides := List.find?_some found
  rw [places, found]
  simpa using Nat.dvd_of_mod_eq_zero (by simpa using divides)

theorem digits_takeWhile {digits rest : List Char} (numeric : digits.all Char.isDigit = true)
    (ends : ∀ c, rest.head? = some c → c.isDigit = false) :
    (digits ++ rest).takeWhile Char.isDigit = digits ∧
      (digits ++ rest).dropWhile Char.isDigit = rest := by
  have each := List.all_eq_true.mp numeric
  have stop : rest.takeWhile Char.isDigit = [] ∧ rest.dropWhile Char.isDigit = rest := by
    cases rest with
    | nil => exact ⟨rfl, rfl⟩
    | cons c rest =>
        have := ends c rfl
        simp [this]
  rw [List.takeWhile_append_of_pos each, List.dropWhile_append_of_pos each, stop.1, stop.2,
    List.append_nil]
  exact ⟨rfl, rfl⟩

theorem toDigits_numeric (n : Nat) : (Nat.toDigits 10 n).all Char.isDigit = true :=
  List.all_eq_true.mpr fun _ member =>
    Nat.isDigit_of_mem_toDigits (by decide) (by decide) member

theorem readUnsigned_unsignedText (digits k : Nat) :
    readUnsigned (unsignedText digits k) = some ((digits : ℚ) / 10 ^ k) := by
  have numeric := toDigits_numeric (digits / 10 ^ k)
  have shown : Nat.toDigits 10 (digits / 10 ^ k) ≠ [] := Nat.toDigits_ne_nil
  by_cases plain : k = 0
  · subst plain
    obtain ⟨whole, rest⟩ := @digits_takeWhile _ [] numeric (by simp)
    simp only [unsignedText, if_true, readUnsigned, whole, rest, if_neg shown]
    simp
  · have small : digits % 10 ^ k < 10 ^ k := Nat.mod_lt _ (by positivity)
    have long := length_padded small (Nat.pos_of_ne_zero plain)
    have fraction : DateTime.padded k (digits % 10 ^ k) ≠ [] := by
      intro empty
      rw [empty] at long
      exact plain long.symm
    obtain ⟨whole, rest⟩ := @digits_takeWhile _
      ('.' :: DateTime.padded k (digits % 10 ^ k)) numeric (by simp)
    have value : Nat.ofDigitChars 10 (Nat.toDigits 10 (digits / 10 ^ k) ++
        DateTime.padded k (digits % 10 ^ k)) 0 = digits := by
      rw [Nat.ofDigitChars_append, Nat.ofDigitChars_eq_ofDigitChars_zero, long,
        ofDigitChars_padded, Nat.ofDigitChars_ten_toDigits]
      exact Nat.div_add_mod digits (10 ^ k)
    simp only [unsignedText, if_neg plain, readUnsigned, whole, rest, if_neg shown]
    rw [if_pos ⟨fraction, padded_digits _ _⟩, value, long]

theorem unsignedText_head (digits k : Nat) : ∃ c rest, unsignedText digits k = c :: rest ∧
    c ≠ '-' := by
  cases shape : Nat.toDigits 10 (digits / 10 ^ k) with
  | nil => exact absurd shape Nat.toDigits_ne_nil
  | cons c rest =>
      have digit := Nat.isDigit_of_mem_toDigits (b := 10) (n := digits / 10 ^ k) (by decide)
        (by decide) (shape ▸ List.mem_cons_self)
      refine ⟨c, _, by rw [unsignedText, shape, List.cons_append], ?_⟩
      rintro rfl
      exact absurd digit (by decide)

/-- The digits of a decimal over its power of ten are its absolute value. -/
theorem digits_value {q : ℚ} (decimal : IsDecimal q) :
    ((q.num.natAbs * (10 ^ places q / q.den) : Nat) : ℚ) / 10 ^ places q = |q| := by
  obtain ⟨scale, power⟩ := den_dvd_places decimal
  have den : (q.den : ℚ) ≠ 0 := by exact_mod_cast q.den_ne_zero
  have tens : (10 : ℚ) ^ places q = q.den * scale := by exact_mod_cast power
  have scaleNonzero : (scale : ℚ) ≠ 0 := by
    intro zero
    rw [zero, mul_zero] at tens
    exact absurd tens (by positivity)
  rw [power, Nat.mul_div_cancel_left scale q.den_pos, tens, Rat.abs_def]
  push_cast
  rw [Rat.divInt_eq_div]
  field_simp
  simp [mul_comm]

/-- A decimal is read back from its text. -/
theorem read_text {q : ℚ} (decimal : IsDecimal q) : read (text q) = some q := by
  have value := digits_value decimal
  have unsigned := readUnsigned_unsignedText (q.num.natAbs * (10 ^ places q / q.den)) (places q)
  rw [value] at unsigned
  by_cases negative : q < 0
  · simp only [read, text, if_pos negative, String.toList_ofList, unsigned, Option.map_some,
      abs_of_neg negative, neg_neg]
  · obtain ⟨c, rest, shape, unsignedHead⟩ :=
      unsignedText_head (q.num.natAbs * (10 ^ places q / q.den)) (places q)
    rw [abs_of_nonneg (not_lt.mp negative), shape] at unsigned
    simp only [read, text, if_neg negative, String.toList_ofList, shape]
    split
    · rename_i same
      cases same
      exact absurd rfl unsignedHead
    · exact unsigned

end PyDecimal

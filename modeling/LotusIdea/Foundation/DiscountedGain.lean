import Mathlib.Algebra.Order.Field.Basic
import Mathlib.Data.List.Sort
import Mathlib.Tactic.FieldSimp
import Mathlib.Tactic.Linarith
import Mathlib.Tactic.Positivity
import Mathlib.Tactic.Ring

/-!
# Discounted gains

Graded items in a ranking, each with a gain that is divided by the discount of its
rank.  To exchange two neighbours so that the better one comes first raises the
sum, so sorting the items, which exchanges neighbours until none are out of order,
gives the largest sum of all their orders, and only a sorted ranking reaches it.
-/

set_option autoImplicit false

namespace DiscountedGain

/-- A positive divisor for each rank, larger for a later one. -/
structure Discount (K : Type) [Zero K] [LT K] where
  divisor : ℕ → K
  positive : ∀ rank, 0 < rank → 0 < divisor rank
  increasing : ∀ rank, 0 < rank → divisor rank < divisor (rank + 1)

/-- What an item of a grade is worth. -/
structure Gain (α K : Type) [LT α] [Zero K] [LE K] [LT K] where
  value : α → K
  nonneg : ∀ grade, 0 ≤ value grade
  increasing : ∀ lower higher, lower < higher → value lower < value higher

section
variable {α K : Type} [LinearOrder α] [Field K] [LinearOrder K] [IsStrictOrderedRing K]
  (gain : Gain α K) (discount : Discount K)

/-- The discounted gains of items that stand at `rank` and behind. -/
def total : ℕ → List α → K
  | _, [] => 0
  | rank, grade :: rest => gain.value grade / discount.divisor rank + total (rank + 1) rest

/-- The items, the better ones first. -/
def best (grades : List α) : List α := grades.insertionSort (· ≥ ·)

/-- The discounted gains against those of the best order. -/
def normalized (grades : List α) : K :=
  if total gain discount 1 (best grades) = 0 then 0
  else total gain discount 1 grades / total gain discount 1 (best grades)

variable {gain discount}

theorem total_nonneg (grades : List α) {rank : ℕ} (ranked : 0 < rank) :
    0 ≤ total gain discount rank grades := by
  induction grades generalizing rank with
  | nil => exact le_rfl
  | cons grade rest ih =>
      have first : 0 ≤ gain.value grade / discount.divisor rank :=
        div_nonneg (gain.nonneg grade) (discount.positive rank ranked).le
      exact add_nonneg first (ih (Nat.succ_pos rank))

/-- No gain is discounted to nothing. -/
theorem total_eq_zero {grades : List α} {rank : ℕ} (ranked : 0 < rank) :
    total gain discount rank grades = 0 ↔ ∀ grade ∈ grades, gain.value grade = 0 := by
  induction grades generalizing rank with
  | nil => simp [total]
  | cons grade rest ih =>
      have divisor := discount.positive rank ranked
      have first : 0 ≤ gain.value grade / discount.divisor rank :=
        div_nonneg (gain.nonneg grade) divisor.le
      rw [total, add_eq_zero_iff_of_nonneg first (total_nonneg rest (Nat.succ_pos rank)),
        ih (Nat.succ_pos rank), div_eq_zero_iff, List.forall_mem_cons]
      simp [divisor.ne']

/-- The better of two neighbours is worth more in front. -/
theorem total_exchange {lower higher : α} (rest : List α) {rank : ℕ} (ranked : 0 < rank)
    (less : lower < higher) :
    total gain discount rank (lower :: higher :: rest) <
      total gain discount rank (higher :: lower :: rest) := by
  have near := discount.positive rank ranked
  have far := discount.positive (rank + 1) (Nat.succ_pos rank)
  have further := discount.increasing rank ranked
  have gained : gain.value lower < gain.value higher := gain.increasing _ _ less
  have inverse : (discount.divisor (rank + 1))⁻¹ < (discount.divisor rank)⁻¹ :=
    (inv_lt_inv₀ far near).mpr further
  have product : 0 < (gain.value higher - gain.value lower) *
      ((discount.divisor rank)⁻¹ - (discount.divisor (rank + 1))⁻¹) :=
    mul_pos (sub_pos.mpr gained) (sub_pos.mpr inverse)
  simp only [total, div_eq_mul_inv]
  linarith

theorem total_append_le (front : List α) {one other : List α}
    (le : ∀ rank, 0 < rank → total gain discount rank one ≤ total gain discount rank other)
    {rank : ℕ} (ranked : 0 < rank) :
    total gain discount rank (front ++ one) ≤ total gain discount rank (front ++ other) := by
  induction front generalizing rank with
  | nil => exact le rank ranked
  | cons grade rest ih => exact add_le_add_right (ih (Nat.succ_pos rank)) _

/-- Insertion exchanges the new item with every better one. -/
theorem total_insert_le (grade : α) (rest : List α) {rank : ℕ} (ranked : 0 < rank) :
    total gain discount rank (grade :: rest) ≤
      total gain discount rank (rest.orderedInsert (· ≥ ·) grade) := by
  induction rest generalizing rank with
  | nil => exact le_rfl
  | cons head tail ih =>
      rw [List.orderedInsert_cons]
      split
      · exact le_rfl
      · rename_i better
        calc total gain discount rank (grade :: head :: tail)
            ≤ total gain discount rank (head :: grade :: tail) :=
              (total_exchange tail ranked (not_le.mp better)).le
          _ ≤ total gain discount rank (head :: tail.orderedInsert (· ≥ ·) grade) :=
              add_le_add_right (ih (Nat.succ_pos rank)) _

/-- An insertion behind a better item gains. -/
theorem total_insert_lt {grade head : α} {tail : List α} {rank : ℕ} (ranked : 0 < rank)
    (better : grade < head) :
    total gain discount rank (grade :: head :: tail) <
      total gain discount rank ((head :: tail).orderedInsert (· ≥ ·) grade) := by
  rw [List.orderedInsert_cons, if_neg (not_le.mpr better)]
  calc total gain discount rank (grade :: head :: tail)
      < total gain discount rank (head :: grade :: tail) := total_exchange tail ranked better
    _ ≤ total gain discount rank (head :: tail.orderedInsert (· ≥ ·) grade) :=
        add_le_add_right (total_insert_le grade tail (Nat.succ_pos rank)) _

theorem best_cons (grade : α) (rest : List α) :
    best (grade :: rest) = (best rest).orderedInsert (· ≥ ·) grade := rfl

theorem best_perm (grades : List α) : (best grades).Perm grades :=
  List.perm_insertionSort _ grades

theorem best_sorted (grades : List α) : (best grades).Pairwise (· ≥ ·) :=
  List.pairwise_insertionSort _ grades

theorem best_of_perm {one other : List α} (same : one.Perm other) : best one = best other :=
  ((best_perm one).trans (same.trans (best_perm other).symm)).eq_of_pairwise
    (fun _ _ _ _ ge le => le_antisymm le ge) (best_sorted one) (best_sorted other)

theorem total_le_best (grades : List α) {rank : ℕ} (ranked : 0 < rank) :
    total gain discount rank grades ≤ total gain discount rank (best grades) := by
  induction grades generalizing rank with
  | nil => exact le_rfl
  | cons grade rest ih =>
      calc total gain discount rank (grade :: rest)
          ≤ total gain discount rank (grade :: best rest) :=
            add_le_add_right (ih (Nat.succ_pos rank)) _
        _ ≤ total gain discount rank (best (grade :: rest)) :=
            total_insert_le grade (best rest) ranked

/-- Only a sorted ranking reaches the best sum. -/
theorem total_eq_best {grades : List α} {rank : ℕ} (ranked : 0 < rank) :
    total gain discount rank grades = total gain discount rank (best grades) ↔
      grades.Pairwise (· ≥ ·) := by
  constructor
  · intro reached
    induction grades generalizing rank with
    | nil => exact List.Pairwise.nil
    | cons grade rest ih =>
        have inner : total gain discount (rank + 1) rest ≤
            total gain discount (rank + 1) (best rest) := total_le_best rest (Nat.succ_pos rank)
        have outer : total gain discount rank (grade :: best rest) ≤
            total gain discount rank ((best rest).orderedInsert (· ≥ ·) grade) :=
          total_insert_le grade (best rest) ranked
        rw [best_cons] at reached
        simp only [total] at reached outer
        have restReached : total gain discount (rank + 1) rest =
            total gain discount (rank + 1) (best rest) := le_antisymm inner (by linarith)
        have sorted := ih (Nat.succ_pos rank) restReached
        have own : best rest = rest := sorted.insertionSort_eq
        rw [own] at reached
        refine List.pairwise_cons.mpr ⟨?_, sorted⟩
        cases rest with
        | nil => intro other listed; cases listed
        | cons head tail =>
            have first : grade ≥ head := by
              by_contra better
              exact (total_insert_lt ranked (not_le.mp better)).ne reached
            intro other listed
            rcases List.mem_cons.mp listed with rfl | later
            · exact first
            · exact ((List.pairwise_cons.mp sorted).1 other later).trans first
  · intro sorted
    have own : best grades = grades := sorted.insertionSort_eq
    rw [own]

/-! ## The normalized sum -/

theorem total_best_eq_zero {grades : List α} :
    total gain discount 1 (best grades) = 0 ↔ ∀ grade ∈ grades, gain.value grade = 0 := by
  rw [total_eq_zero Nat.one_pos]
  exact forall_congr' fun grade => imp_congr_left (best_perm grades).mem_iff

theorem normalized_nonneg (grades : List α) : 0 ≤ normalized gain discount grades := by
  unfold normalized
  split
  · exact le_rfl
  · exact div_nonneg (total_nonneg _ Nat.one_pos) (total_nonneg _ Nat.one_pos)

theorem normalized_le_one (grades : List α) : normalized gain discount grades ≤ 1 := by
  unfold normalized
  split
  · exact zero_le_one
  · exact div_le_one_of_le₀ (total_le_best grades Nat.one_pos) (total_nonneg _ Nat.one_pos)

theorem normalized_eq_zero {grades : List α} :
    normalized gain discount grades = 0 ↔ ∀ grade ∈ grades, gain.value grade = 0 := by
  unfold normalized
  split
  · rename_i zero
    exact iff_of_true rfl (total_best_eq_zero.mp zero)
  · rename_i some
    rw [div_eq_zero_iff, total_eq_zero Nat.one_pos]
    exact or_iff_left some

theorem normalized_eq_one {grades : List α} :
    normalized gain discount grades = 1 ↔
      grades.Pairwise (· ≥ ·) ∧ ¬ ∀ grade ∈ grades, gain.value grade = 0 := by
  unfold normalized
  split
  · rename_i zero
    exact iff_of_false zero_ne_one fun both => both.2 (total_best_eq_zero.mp zero)
  · rename_i some
    rw [div_eq_one_iff_eq some, total_eq_best Nat.one_pos]
    exact (and_iff_left fun none => some (total_best_eq_zero.mpr none)).symm

/-- To put the better of two neighbours first never lowers the sum. -/
theorem normalized_exchange_le (front back : List α) {lower higher : α} (le : lower ≤ higher) :
    normalized gain discount (front ++ lower :: higher :: back) ≤
      normalized gain discount (front ++ higher :: lower :: back) := by
  have same : best (front ++ higher :: lower :: back) =
      best (front ++ lower :: higher :: back) :=
    best_of_perm ((List.Perm.swap lower higher back).append_left front)
  have raised : total gain discount 1 (front ++ lower :: higher :: back) ≤
      total gain discount 1 (front ++ higher :: lower :: back) := by
    refine total_append_le front ?_ Nat.one_pos
    intro rank ranked
    rcases le.eq_or_lt with equal | less
    · rw [equal]
    · exact (total_exchange back ranked less).le
  unfold normalized
  rw [same]
  split
  · exact le_rfl
  · exact div_le_div_of_nonneg_right raised (total_nonneg _ Nat.one_pos)

end

end DiscountedGain

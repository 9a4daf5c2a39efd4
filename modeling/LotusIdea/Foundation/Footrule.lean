import Mathlib.Algebra.BigOperators.Group.List.Basic
import Mathlib.Algebra.Order.BigOperators.Group.List
import Mathlib.Data.Int.Basic
import Mathlib.Data.List.Perm.Lattice
import Mathlib.Tactic.Linarith
import Mathlib.Tactic.Ring

/-!
# The footrule distance of two orders

How far the elements of one order are from their places in another one, summed up.
Two orders of `n` elements are at most `n² / 2` apart: an element is no further
from its other place than both places are from the middle, and the places of one
order are together `n² / 4` from it.
-/

set_option autoImplicit false

namespace Footrule

/-- Twice the distance of a place from the middle of `n` places. -/
def offset (n place : ℕ) : ℕ := (2 * (place : ℤ) + 1 - n).natAbs

theorem offset_shift (n place : ℕ) : offset (n + 2) (place + 1) = offset n place := by
  unfold offset
  congr 1
  push_cast
  ring

/-- The places of `n + 2` are the outer two and the places of `n`. -/
theorem sum_offset_step (n : ℕ) :
    ((List.range (n + 2)).map (offset (n + 2))).sum =
      2 * (n + 1) + ((List.range n).map (offset n)).sum := by
  have inner : (List.map Nat.succ (List.range n)).map (offset (n + 2)) =
      (List.range n).map (offset n) := by
    rw [List.map_map]
    exact List.map_congr_left fun place _ => offset_shift n place
  have low : offset (n + 2) 0 = n + 1 := by
    unfold offset
    omega
  have high : offset (n + 2) (n + 1) = n + 1 := by
    unfold offset
    omega
  rw [List.range_succ, List.range_succ_eq_map, List.map_append, List.map_cons, inner, low]
  simp only [List.map_cons, List.map_nil, high, List.sum_append, List.sum_cons, List.sum_nil]
  omega

theorem sum_offset (n : ℕ) : ((List.range n).map (offset n)).sum = n ^ 2 / 2 := by
  induction n using Nat.twoStepInduction with
  | zero => rfl
  | one => rfl
  | more n ih _ =>
      have square : (n + 2) ^ 2 = n ^ 2 + 2 * (2 * (n + 1)) := by ring
      rw [sum_offset_step, ih, square]
      omega

section
variable {α : Type} [DecidableEq α]

/-- The places of the elements of `after` in the order `before`. -/
def places (before after : List α) : List ℕ := after.map before.idxOf

/-- How far each element of `after` is from its place in `before`. -/
def displacements (before after : List α) : List ℕ :=
  (places before after).zipIdx.map fun move => ((move.1 : ℤ) - move.2).natAbs

def distance (before after : List α) : ℕ := (displacements before after).sum

theorem places_self {before : List α} (distinct : before.Nodup) :
    places before before = List.range before.length := by
  apply List.ext_getElem
  · simp [places]
  · intro i _ _
    simp [places, distinct.idxOf_getElem]

/-- An element moves no further than both of its places are from the middle. -/
theorem sum_moves_le (n : ℕ) (former : List ℕ) (start : ℕ) :
    2 * ((former.zipIdx start).map fun move => ((move.1 : ℤ) - move.2).natAbs).sum ≤
      (former.map (offset n)).sum + ((List.range' start former.length).map (offset n)).sum := by
  induction former generalizing start with
  | nil => simp
  | cons a rest ih =>
      have further := ih (start + 1)
      have triangle : 2 * ((a : ℤ) - start).natAbs ≤ offset n a + offset n start := by
        unfold offset
        omega
      simp only [List.zipIdx_cons, List.map_cons, List.sum_cons, List.length_cons,
        List.range'_succ]
      omega

/-- The extremal bound. -/
theorem distance_le {before after : List α} (distinct : before.Nodup)
    (same : after.Perm before) : distance before after ≤ before.length ^ 2 / 2 := by
  have moves := sum_moves_le before.length (places before after) 0
  have length : (places before after).length = before.length := by
    simp [places, same.length_eq]
  have permuted : (places before after).Perm (List.range before.length) := by
    rw [← places_self distinct]
    exact same.map _
  have former : ((places before after).map (offset before.length)).sum =
      before.length ^ 2 / 2 := by
    rw [(permuted.map _).sum_eq, sum_offset]
  rw [former, length, ← List.range_eq_range', sum_offset] at moves
  unfold distance displacements
  omega

/-- Nothing moves exactly when the orders are equal. -/
theorem distance_eq_zero {before after : List α} (distinct : before.Nodup)
    (same : after.Perm before) : distance before after = 0 ↔ before = after := by
  constructor
  · intro still
    rw [distance, List.sum_eq_zero_iff] at still
    apply List.ext_getElem same.length_eq.symm
    intro i _ inside
    have listed : (before.idxOf after[i], i) ∈ (places before after).zipIdx := by
      rw [List.mem_zipIdx_iff_getElem?]
      simp [places, inside]
    have moved := still _ (List.mem_map.mpr ⟨_, listed, rfl⟩)
    have placed : before.idxOf after[i] = i := by
      simp only at moved
      omega
    have held : after[i] ∈ before := same.subset (List.getElem_mem inside)
    have former : before.idxOf after[i] < before.length := List.idxOf_lt_length_of_mem held
    calc before[i] = before[before.idxOf after[i]] := by simp only [placed]
      _ = after[i] := List.getElem_idxOf former
  · rintro rfl
    rw [distance, List.sum_eq_zero_iff]
    intro moved listed
    obtain ⟨⟨former, place⟩, placed, rfl⟩ := List.mem_map.mp listed
    rw [places_self distinct, List.mem_zipIdx_iff_getElem?] at placed
    have equal : former = place := by
      simp only [List.getElem?_eq_some_iff, List.getElem_range] at placed
      obtain ⟨_, equal⟩ := placed
      exact equal.symm
    simp [equal]

end

end Footrule

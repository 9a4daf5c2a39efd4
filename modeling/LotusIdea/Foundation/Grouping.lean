import LotusIdea.Foundation.OrderedDict
import Mathlib.Algebra.BigOperators.Group.List.Lemmas
import Mathlib.Algebra.GroupWithZero.Nat
import Mathlib.Data.List.Induction

/-!
# Items grouped under keys

`grouped.setdefault(key, []).append(item)` over all items: under each key stand
its items, in their order.  A number that adds up over the items adds up over the
groups.
-/

set_option autoImplicit false

namespace Dict
variable {κ α : Type} [DecidableEq κ]

/-- `d.setdefault(key, []).append(item)`. -/
def append (d : Dict κ (List α)) (key : κ) (item : α) : Dict κ (List α) :=
  d.set key ((d.get? key).getD [] ++ [item])

def groupBy (key : α → κ) (items : List α) : Dict κ (List α) :=
  items.foldl (fun grouped item => grouped.append (key item) item) empty

theorem groupBy_concat (key : α → κ) (items : List α) (item : α) :
    groupBy key (items ++ [item]) = (groupBy key items).append (key item) item := by
  simp [groupBy]

theorem get?_groupBy (key : α → κ) (items : List α) (k : κ) :
    (groupBy key items).get? k =
      if items.filter (fun item => key item = k) = [] then none
      else some (items.filter fun item => key item = k) := by
  induction items using List.reverseRecOn with
  | nil => rfl
  | append_singleton items item ih =>
      rw [groupBy_concat, append, get?_set, List.filter_append]
      by_cases own : k = key item
      · subst own
        rw [ih]
        by_cases none : items.filter (fun other => key other = key item) = []
        · simp [none]
        · simp [none]
      · have other : key item ≠ k := fun same => own same.symm
        rw [if_neg own, ih]
        simp [other]

/-- A group holds the items of one key, and at least one. -/
theorem mem_groupBy {key : α → κ} {items : List α} {k : κ} {group : List α} :
    (groupBy key items).get? k = some group ↔
      group = items.filter (fun item => key item = k) ∧ group ≠ [] := by
  rw [get?_groupBy]
  split
  · rename_i none
    constructor
    · intro found
      cases found
    · rintro ⟨rfl, some⟩
      exact absurd none some
  · rename_i some
    constructor
    · intro found
      cases found
      exact ⟨rfl, some⟩
    · rintro ⟨rfl, -⟩
      rfl

theorem mem_values_groupBy {key : α → κ} {items : List α} {group : List α} :
    group ∈ (groupBy key items).values ↔
      ∃ k, group = items.filter (fun item => key item = k) ∧ group ≠ [] := by
  rw [mem_values_iff]
  exact exists_congr fun k => mem_groupBy

end Dict

namespace Grouping
variable {κ α : Type} [DecidableEq κ]

/-! ## What adds up over groups -/

/-- A number taken of a list that adds up over its items. -/
structure Additive (number : List α → ℕ) : Prop where
  nil : number [] = 0
  cons : ∀ item rest, number (item :: rest) = number [item] + number rest

namespace Additive

theorem length : Additive (List.length : List α → ℕ) where
  nil := rfl
  cons _ rest := by simp [Nat.add_comm]

theorem countP (p : α → Bool) : Additive (List.countP p) where
  nil := rfl
  cons item rest := by
    rw [← List.countP_append]
    rfl

/-- The values of which each item gives some. -/
theorem count {β : Type} [DecidableEq β] (values : α → List β) (value : β) :
    Additive fun items => (items.flatMap values).count value where
  nil := rfl
  cons item rest := by simp [List.count_append]

theorem sum (weight : α → ℕ) : Additive fun items => (items.map weight).sum where
  nil := rfl
  cons item rest := by simp

theorem add {first second : List α → ℕ} (one : Additive first) (other : Additive second) :
    Additive fun items => first items + second items where
  nil := by rw [one.nil, other.nil]
  cons item rest := by
    rw [one.cons, other.cons]
    omega

end Additive

/-- Each item stands in the group of its own key, and in no other. -/
theorem sum_groups {number : List α → ℕ} (additive : Additive number) (key : α → κ) {keys : List κ}
    (distinct : keys.Nodup) {items : List α} (covered : ∀ item ∈ items, key item ∈ keys) :
    (keys.map fun k => number (items.filter fun item => key item = k)).sum = number items := by
  induction items with
  | nil => simp [additive.nil]
  | cons item rest ih =>
      have later := ih fun other member => covered other (List.mem_cons_of_mem _ member)
      have own : (keys.map fun k => if key item = k then number [item] else 0).sum =
          number [item] := by
        rw [List.sum_map_eq_nsmul_single (key item) _ fun k other _ => if_neg other.symm,
          List.count_eq_one_of_mem distinct (covered item List.mem_cons_self), if_pos rfl, one_nsmul]
      rw [additive.cons, ← later, ← own, ← List.sum_map_add]
      congr 1
      refine List.map_congr_left fun k _ => ?_
      by_cases same : key item = k
      · rw [List.filter_cons_of_pos (by simpa using same), additive.cons, if_pos same]
      · rw [List.filter_cons_of_neg (by simpa using same), if_neg same, Nat.zero_add]

end Grouping

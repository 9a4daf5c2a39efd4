import LotusIdea.Foundation.SqlQuery
import Mathlib.Data.List.MinMax
import Mathlib.Data.List.Pairwise
import Mathlib.Data.List.Sort
import Mathlib.Data.Prod.Lex
import Mathlib.Order.WithBot

/-!
# Ordered rows

Rows sorted by a key, the first of them, and when two keys sort them alike.  A key
that may be absent is ordered in `WithTop`, since a NULL sorts behind every value;
a descending key is ordered in the dual, where a NULL comes first.
-/

set_option autoImplicit false

namespace Sql

section
variable {α κ μ : Type} [LinearOrder κ] [LinearOrder μ]

/-- `ORDER BY key`. -/
def orderBy (key : α → κ) (rows : List α) : List α :=
  rows.insertionSort fun a b => key a ≤ key b

/-- The key of a column that may be NULL. -/
def nullsLast (value : Option κ) : WithTop κ := value

@[simp] theorem nullsLast_lt {a b : κ} : nullsLast (some a) < nullsLast (some b) ↔ a < b :=
  WithTop.coe_lt_coe

@[simp] theorem nullsLast_inj {a b : κ} : nullsLast (some a) = nullsLast (some b) ↔ a = b :=
  WithTop.coe_inj

theorem orderBy_perm (key : α → κ) (rows : List α) : (orderBy key rows).Perm rows :=
  List.perm_insertionSort _ rows

@[simp] theorem mem_orderBy {key : α → κ} {rows : List α} {a : α} :
    a ∈ orderBy key rows ↔ a ∈ rows :=
  (orderBy_perm key rows).mem_iff

@[simp] theorem length_orderBy (key : α → κ) (rows : List α) :
    (orderBy key rows).length = rows.length :=
  (orderBy_perm key rows).length_eq

theorem orderBy_sorted (key : α → κ) (rows : List α) :
    (orderBy key rows).Pairwise fun a b => key a ≤ key b :=
  List.pairwise_insertionSort _ rows

theorem orderBy_eq_self {key : α → κ} {rows : List α}
    (sorted : rows.Pairwise fun a b => key a ≤ key b) : orderBy key rows = rows :=
  sorted.insertionSort_eq

/-- Rows sorted before or after a mapping that keeps their order. -/
theorem map_orderBy {β : Type} {key : α → κ} {other : β → μ} (f : α → β) {rows : List α}
    (agree : ∀ a ∈ rows, ∀ b ∈ rows, key a ≤ key b ↔ other (f a) ≤ other (f b)) :
    (orderBy key rows).map f = orderBy other (rows.map f) :=
  List.map_insertionSort _ _ f rows agree

theorem orderBy_map {β : Type} (key : β → κ) (f : α → β) (rows : List α) :
    orderBy key (rows.map f) = (orderBy (fun a => key (f a)) rows).map f :=
  (map_orderBy f fun _ _ _ _ => Iff.rfl).symm

/-- No two rows share a key. -/
def KeyedBy (key : α → κ) (rows : List α) : Prop :=
  ∀ a ∈ rows, ∀ b ∈ rows, key a = key b → a = b

/-- A sorted list of the same rows is the list that sorting gives. -/
theorem orderBy_eq_of_perm {key : α → κ} {rows sorted : List α} (keyed : KeyedBy key rows)
    (perm : sorted.Perm rows) (ordered : sorted.Pairwise fun a b => key a ≤ key b) :
    orderBy key rows = sorted := by
  refine ((orderBy_perm key rows).trans perm.symm).eq_of_pairwise ?_ (orderBy_sorted key rows)
    ordered
  intro a b listed given below above
  exact keyed a (mem_orderBy.mp listed) b (perm.mem_iff.mp given) (le_antisymm below above)

/-- Two keys give rows one order exactly when they agree on every pair of them. -/
theorem orderBy_eq_iff {key : α → κ} {other : α → μ} {rows : List α} (keyed : KeyedBy key rows)
    (otherKeyed : KeyedBy other rows) :
    orderBy key rows = orderBy other rows ↔
      ∀ a ∈ rows, ∀ b ∈ rows, key a ≤ key b ↔ other a ≤ other b := by
  constructor
  · intro same
    have sorted := (orderBy_sorted key rows).and (same ▸ orderBy_sorted other rows)
    let Agree (a b : α) : Prop :=
      (key a ≤ key b ↔ other a ≤ other b) ∧ (key b ≤ key a ↔ other b ≤ other a)
    have symmetric : Std.Symm Agree := ⟨fun _ _ both => ⟨both.2, both.1⟩⟩
    have agree : (orderBy key rows).Pairwise Agree := by
      refine sorted.imp_of_mem ?_
      rintro a b first second ⟨below, otherBelow⟩
      have a_row := mem_orderBy.mp first
      have b_row := mem_orderBy.mp second
      refine ⟨iff_of_true below otherBelow, ?_, ?_⟩
      · intro above
        rw [keyed a a_row b b_row (le_antisymm below above)]
      · intro above
        rw [otherKeyed a a_row b b_row (le_antisymm otherBelow above)]
    intro a a_row b b_row
    have self (c : α) : c ∈ orderBy key rows → Agree c c :=
      fun _ => ⟨iff_of_true le_rfl le_rfl, iff_of_true le_rfl le_rfl⟩
    exact (agree.forall_of_forall self (mem_orderBy.mpr a_row) (mem_orderBy.mpr b_row)).1
  · intro agree
    refine orderBy_eq_of_perm keyed (orderBy_perm other rows) ?_
    refine (orderBy_sorted other rows).imp_of_mem ?_
    intro a b first second below
    exact (agree a (mem_orderBy.mp first) b (mem_orderBy.mp second)).mpr below

/-- Of two rows with one key, the first stays first. -/
theorem orderBy_tie {key : α → κ} {a b : α} (tie : key a = key b) (rest : List α) :
    ∃ before after, orderBy key (a :: b :: rest) = before ++ a :: b :: after ∧
      orderBy key (b :: a :: rest) = before ++ b :: a :: after := by
  change ∃ before after,
    (((orderBy key rest).orderedInsert (fun c d => key c ≤ key d) b).orderedInsert
      (fun c d => key c ≤ key d) a) = before ++ a :: b :: after ∧
    (((orderBy key rest).orderedInsert (fun c d => key c ≤ key d) a).orderedInsert
      (fun c d => key c ≤ key d) b) = before ++ b :: a :: after
  induction orderBy key rest with
  | nil => exact ⟨[], [], by simp [tie], by simp [tie]⟩
  | cons first others ih =>
      by_cases below : key b ≤ key first
      · exact ⟨[], first :: others, by simp [tie, below], by simp [tie, below]⟩
      · obtain ⟨before, after, one, other⟩ := ih
        refine ⟨first :: before, after, ?_, ?_⟩
        · simp only [List.orderedInsert, if_neg below, tie, one, List.cons_append]
        · simp only [List.orderedInsert, if_neg below, tie, other, List.cons_append]

/-- The first of the rows with the least key. -/
def firstBy (key : α → κ) (rows : List α) : Option α := rows.argmin key

/-- The first of the rows with the greatest key. -/
def lastBy (key : α → κ) (rows : List α) : Option α := rows.argmax key

/-- The first of the sorted rows is the least one. -/
theorem head?_orderBy (key : α → κ) (rows : List α) :
    (orderBy key rows).head? = firstBy key rows := by
  unfold firstBy
  induction rows with
  | nil => rfl
  | cons a rest ih =>
      rw [List.argmin_cons, ← ih, orderBy, List.insertionSort_cons]
      change (List.orderedInsert _ a (orderBy key rest)).head? = _
      cases orderBy key rest with
      | nil => rfl
      | cons b later =>
          by_cases first : key a ≤ key b
          · rw [List.orderedInsert_cons_of_le (fun a b => key a ≤ key b) later first]
            simp [not_lt.mpr first]
          · rw [List.orderedInsert_of_not_le (fun a b => key a ≤ key b) later first]
            simp [not_le.mp first]

/-- The first of the rows sorted downwards is the greatest one. -/
theorem head?_orderBy_desc (key : α → κ) (rows : List α) :
    (orderBy (fun a => OrderDual.toDual (key a)) rows).head? = lastBy key rows :=
  head?_orderBy _ rows

end

/-- Pages whose rows are numbered from their offsets are the rows they cover,
numbered from the start. -/
theorem numbered_pages_join {α β : Type} (rows : List α) (number : Nat → α → β)
    (limit count : Nat) :
    (List.range count).flatMap (fun k =>
        (page rows limit (k * limit)).mapIdx fun i => number (k * limit + i)) =
      (rows.take (count * limit)).mapIdx number := by
  induction count with
  | zero => simp
  | succ count ih =>
      rw [List.range_succ, List.flatMap_append, ih, List.flatMap_singleton, Nat.succ_mul,
        List.take_add, List.mapIdx_append, page]
      congr 1
      by_cases inside : count * limit ≤ rows.length
      · simp only [List.length_take, Nat.min_eq_left inside, Nat.add_comm]
      · rw [List.drop_eq_nil_of_le (by omega)]
        simp

end Sql

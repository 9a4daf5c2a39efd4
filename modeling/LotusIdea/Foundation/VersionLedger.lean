import Mathlib.Order.Defs.LinearOrder
import Mathlib.Data.List.Nodup
import Mathlib.Order.Lattice

/-!
# Version ledgers

A subject carries a version that only moves up.  Its history lists the versions
it has had; a token issued on the subject names what the subject was at one
version; a version may be spent at most once.  Versions are any linear order.
-/

set_option autoImplicit false

namespace VersionLedger

universe u v
variable {ν : Type u} [LinearOrder ν]

/-! ## Histories -/

/-- A strictly increasing history that ends in the current version. -/
structure Chronicle (history : List ν) (current : ν) : Prop where
  increasing : history.Pairwise (· < ·)
  last : history.getLast? = some current

theorem Chronicle.single (current : ν) : Chronicle [current] current :=
  ⟨List.pairwise_singleton _ _, rfl⟩

theorem Chronicle.le_current {history : List ν} {current version : ν}
    (chronicle : Chronicle history current) (member : version ∈ history) : version ≤ current := by
  obtain ⟨before, whole⟩ := List.getLast?_eq_some_iff.mp chronicle.last
  have increasing := chronicle.increasing
  rw [whole, List.pairwise_append] at increasing
  rw [whole, List.mem_append, List.mem_singleton] at member
  rcases member with early | rfl
  · exact le_of_lt (increasing.2.2 version early current (List.mem_singleton_self _))
  · exact le_refl _

theorem Chronicle.append {history : List ν} {current next : ν}
    (chronicle : Chronicle history current) (later : current < next) :
    Chronicle (history ++ [next]) next where
  increasing := by
    rw [List.pairwise_append]
    refine ⟨chronicle.increasing, List.pairwise_singleton _ _, ?_⟩
    intro version member other single
    rw [List.mem_singleton] at single
    subst single
    exact lt_of_le_of_lt (chronicle.le_current member) later
  last := List.getLast?_concat

/-! ## Tokens -/

section Tokens
variable {ε : Type v} {version : ε → ν}

/-- A token is no later than the subject, and at its version is the subject. -/
structure Issued (version : ε → ν) (token subject : ε) : Prop where
  bounded : version token ≤ version subject
  agrees : version token = version subject → token = subject

theorem Issued.refl (subject : ε) : Issued version subject subject :=
  ⟨le_refl _, fun _ => rfl⟩

/-- A later version leaves every token behind. -/
theorem Issued.advance {token subject next : ε} (issued : Issued version token subject)
    (later : version subject < version next) : Issued version token next where
  bounded := le_of_lt (lt_of_le_of_lt issued.bounded later)
  agrees := by
    intro same
    have behind := lt_of_le_of_lt issued.bounded later
    rw [same] at behind
    exact absurd behind (lt_irrefl _)

/-- A token that has stopped naming the subject never names it again. -/
theorem Issued.never_again {token subject next : ε} (issued : Issued version token subject)
    (stale : token ≠ subject) (later : version subject ≤ version next) : token ≠ next := by
  intro same
  subst same
  have together : version token = version subject := le_antisymm issued.bounded later
  exact stale (issued.agrees together)

end Tokens

/-! ## Spending a version -/

/-- The versions spent so far: no version twice, none after the current one, and
the subject is closed once its current version is spent. -/
structure SpentOnce (spent : List ν) (current : ν) (closed : Prop) : Prop where
  distinct : spent.Nodup
  bounded : ∀ version ∈ spent, version ≤ current
  sealed : current ∈ spent → closed

theorem SpentOnce.nil (current : ν) (closed : Prop) : SpentOnce [] current closed where
  distinct := List.nodup_nil
  bounded := by simp
  sealed := by simp

theorem SpentOnce.advance {spent : List ν} {current next : ν} {closed closed' : Prop}
    (once : SpentOnce spent current closed) (later : current < next) :
    SpentOnce spent next closed' where
  distinct := once.distinct
  bounded := fun version member => le_of_lt (lt_of_le_of_lt (once.bounded version member) later)
  sealed := by
    intro member
    exact absurd (once.bounded next member) (not_le_of_gt later)

theorem SpentOnce.stay {spent : List ν} {current : ν} {closed closed' : Prop}
    (once : SpentOnce spent current closed) (stays : closed → closed') :
    SpentOnce spent current closed' :=
  ⟨once.distinct, once.bounded, fun member => stays (once.sealed member)⟩

/-- An open subject spends its version, which closes it. -/
theorem SpentOnce.spend {spent : List ν} {current : ν} {closed closed' : Prop}
    (once : SpentOnce spent current closed) (isOpen : ¬ closed) (closes : closed') :
    SpentOnce (spent ++ [current]) current closed' where
  distinct := by
    rw [List.nodup_append]
    refine ⟨once.distinct, List.nodup_singleton _, ?_⟩
    intro version member other single same
    rw [List.mem_singleton] at single
    subst single
    subst same
    exact isOpen (once.sealed member)
  bounded := by
    intro version member
    rw [List.mem_append, List.mem_singleton] at member
    rcases member with early | rfl
    · exact once.bounded version early
    · exact le_refl _
  sealed := fun _ => closes

end VersionLedger

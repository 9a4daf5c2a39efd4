import Mathlib.Logic.Basic

/-!
# Values behind constructor checks

A frozen record whose constructor runs a list of checks and raises the error of
the first check that fails.  `Checked checks` is the type of values on which no
check fails, so the facts the constructor established travel with the value.
-/

set_option autoImplicit false

/-- The error of the first check that fails. -/
def firstFailure {ε : Type*} : List (Bool × ε) → Option ε
  | [] => none
  | (failed, error) :: rest => if failed then some error else firstFailure rest

section firstFailure
variable {ε : Type*}

@[simp] theorem firstFailure_nil : firstFailure ([] : List (Bool × ε)) = none := rfl

@[simp] theorem firstFailure_cons (check : Bool × ε) (rest : List (Bool × ε)) :
    firstFailure (check :: rest) = none ↔ check.1 = false ∧ firstFailure rest = none := by
  obtain ⟨failed, error⟩ := check
  cases failed <;> simp [firstFailure]

theorem firstFailure_eq_none {checks : List (Bool × ε)} :
    firstFailure checks = none ↔ ∀ check ∈ checks, check.1 = false := by
  induction checks with
  | nil => simp
  | cons check rest ih => simp [ih]

@[simp] theorem firstFailure_append (first second : List (Bool × ε)) :
    firstFailure (first ++ second) = none ↔
      firstFailure first = none ∧ firstFailure second = none := by
  simp only [firstFailure_eq_none, List.forall_mem_append]

/-- The error raised is the error of one of the failing checks. -/
theorem firstFailure_mem {checks : List (Bool × ε)} {error : ε}
    (raised : firstFailure checks = some error) : (true, error) ∈ checks := by
  induction checks with
  | nil => simp [firstFailure] at raised
  | cons check rest ih =>
      obtain ⟨failed, own⟩ := check
      cases failed with
      | true =>
          simp only [firstFailure, if_true, Option.some.injEq] at raised
          simp [raised]
      | false =>
          simp only [firstFailure, Bool.false_eq_true, if_false] at raised
          exact List.mem_cons_of_mem _ (ih raised)

theorem firstFailure_map {δ : Type*} (f : ε → δ) (checks : List (Bool × ε)) :
    firstFailure (checks.map fun check => (check.1, f check.2)) = (firstFailure checks).map f := by
  induction checks with
  | nil => rfl
  | cons check rest ih =>
      obtain ⟨failed, own⟩ := check
      cases failed with
      | true => rfl
      | false => exact ih

/-- The checks of one list come before those of the other. -/
theorem firstFailure_or (first second : List (Bool × ε)) :
    firstFailure (first ++ second) = (firstFailure first).or (firstFailure second) := by
  induction first with
  | nil => rfl
  | cons check rest ih =>
      obtain ⟨failed, own⟩ := check
      cases failed with
      | true => rfl
      | false => exact ih

end firstFailure

/-- A value on which every constructor check passes. -/
structure Checked {α ε : Type*} (checks : α → List (Bool × ε)) where
  val : α
  valid : firstFailure (checks val) = none

namespace Checked
variable {α ε : Type*} {checks : α → List (Bool × ε)}

@[ext] theorem ext {a b : Checked checks} (same : a.val = b.val) : a = b := by
  cases a
  cases b
  cases same
  rfl

instance [DecidableEq α] : DecidableEq (Checked checks) := fun a b =>
  decidable_of_iff (a.val = b.val) ⟨ext, congrArg val⟩

instance [BEq α] : BEq (Checked checks) := ⟨fun a b => a.val == b.val⟩

/-- Run the constructor. -/
def make (checks : α → List (Bool × ε)) (a : α) : Except ε (Checked checks) :=
  match found : firstFailure (checks a) with
  | none => .ok ⟨a, found⟩
  | some error => .error error

theorem make_of_valid {a : α} (passed : firstFailure (checks a) = none) :
    make checks a = .ok ⟨a, passed⟩ := by
  unfold make
  split
  · rfl
  · rename_i found
    rw [passed] at found
    cases found

theorem make_eq_ok {a : α} {built : Checked checks} :
    make checks a = .ok built ↔ built.val = a := by
  constructor
  · intro run
    unfold make at run
    split at run
    · cases run
      rfl
    · cases run
  · intro same
    subst same
    exact make_of_valid built.valid

theorem make_eq_error {a : α} {error : ε} :
    make checks a = .error error ↔ firstFailure (checks a) = some error := by
  unfold make
  split
  · rename_i found
    simp [found]
  · rename_i own found
    simp [found]

@[simp] theorem make_val (a : Checked checks) : make checks a.val = .ok a :=
  make_eq_ok.mpr rfl

end Checked

namespace Except
universe u v
variable {ε : Type u} {α β : Type v}

/-- A sequenced computation that returns ran its first part to a value. -/
theorem seq_returns {first : Except ε α} {next : α → Except ε β} {result : β} :
    first >>= next = .ok result ↔ ∃ a, first = .ok a ∧ next a = .ok result := by
  rcases first with error | a
  · constructor
    · intro run
      cases run
    · rintro ⟨_, run, _⟩
      cases run
  · simp [bind, Except.bind]

/-- A sequenced computation that raises did so in its first or second part. -/
theorem seq_raises {first : Except ε α} {next : α → Except ε β} {error : ε} :
    first >>= next = .error error ↔
      first = .error error ∨ ∃ a, first = .ok a ∧ next a = .error error := by
  rcases first with own | a <;> simp [bind, Except.bind]

end Except

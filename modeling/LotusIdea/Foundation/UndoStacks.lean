import LotusIdea.Foundation.Checked
import Mathlib.Data.List.Induction

/-!
# Stacks of applied steps

Steps are applied to a state one after the other, and the last ones are undone again, the
latest first.  A journal that says what was applied and undone accounts for the stack, and
where undoing takes a step back, the stack accounts for the state.
-/

set_option autoImplicit false

namespace UndoStack

universe u v w
variable {α : Type u} {σ : Type v} {ε : Type w}

/-! ## The state that a stack makes -/

def runAll (run : α → σ → Except ε σ) (steps : List α) (start : σ) : Except ε σ :=
  steps.foldlM (fun state step => run step state) start

section
variable (run : α → σ → Except ε σ)

@[simp] theorem runAll_nil (start : σ) : runAll run [] start = .ok start := rfl

theorem runAll_cons (step : α) (rest : List α) (start : σ) :
    runAll run (step :: rest) start = run step start >>= runAll run rest := rfl

theorem runAll_append (first later : List α) (start : σ) :
    runAll run (first ++ later) start = runAll run first start >>= runAll run later := by
  rw [runAll, List.foldlM_append]
  rfl

end

variable {up down : α → σ → Except ε σ}

/-- Where `down` returns after `up`, the state is as it was. -/
def Undoes (up down : α → σ → Except ε σ) (step : α) : Prop :=
  ∀ before made after, up step before = .ok made → down step made = .ok after → after = before

/-- The latest steps, undone from the latest on, leave what the others made. -/
theorem runAll_undone {kept undone : List α} {start made after : σ}
    (undoes : ∀ step ∈ undone, Undoes up down step)
    (built : runAll up (kept ++ undone) start = .ok made)
    (ran : runAll down undone.reverse made = .ok after) : runAll up kept start = .ok after := by
  induction undone using List.reverseRecOn generalizing made with
  | nil =>
      cases ran
      rw [List.append_nil] at built
      exact built
  | append_singleton others last ih =>
      rw [← List.append_assoc, runAll_append] at built
      obtain ⟨before, builtBefore, lastUp⟩ := Except.seq_returns.mp built
      rw [List.reverse_append, List.reverse_singleton, List.singleton_append, runAll_cons] at ran
      obtain ⟨middle, lastDown, ran⟩ := Except.seq_returns.mp ran
      rw [runAll_cons] at lastUp
      obtain ⟨top, lastUp, done⟩ := Except.seq_returns.mp lastUp
      cases done
      have back := undoes last (by simp) before made middle lastUp lastDown
      subst back
      exact ih (fun step member => undoes step (by simp [member])) builtBefore ran

/-! ## The journal -/

inductive Entry (α : Type u) where
  | applied (step : α)
  | undone (step : α)

variable [DecidableEq α]

/-- The stack after an entry: only its last step can be undone. -/
def record (stack : List α) : Entry α → Option (List α)
  | .applied step => some (stack ++ [step])
  | .undone step => if stack.getLast? = some step then some stack.dropLast else none

/-- The stack that a journal accounts for, when every step that it undoes was the last. -/
def replay (journal : List (Entry α)) : Option (List α) := journal.foldlM record []

theorem replay_append {journal further : List (Entry α)} {stack : List α}
    (replayed : replay journal = some stack) :
    replay (journal ++ further) = further.foldlM record stack := by
  rw [replay, List.foldlM_append]
  change replay journal >>= _ = _
  rw [replayed]
  rfl

theorem replay_applied {journal : List (Entry α)} {stack : List α}
    (replayed : replay journal = some stack) (steps : List α) :
    replay (journal ++ steps.map .applied) = some (stack ++ steps) := by
  rw [replay_append replayed]
  clear replayed
  induction steps generalizing stack with
  | nil => simp
  | cons step rest ih =>
      rw [List.map_cons, List.foldlM_cons]
      change (rest.map Entry.applied).foldlM record (stack ++ [step]) = _
      rw [ih, List.append_assoc, List.singleton_append]

theorem replay_undone {journal : List (Entry α)} {kept steps : List α}
    (replayed : replay journal = some (kept ++ steps)) :
    replay (journal ++ steps.reverse.map .undone) = some kept := by
  rw [replay_append replayed]
  clear replayed
  induction steps using List.reverseRecOn with
  | nil => simp
  | append_singleton others last ih =>
      rw [List.reverse_append, List.reverse_singleton, List.singleton_append, List.map_cons,
        List.foldlM_cons]
      have top : record (kept ++ (others ++ [last])) (.undone last) = some (kept ++ others) := by
        rw [← List.append_assoc, record, List.getLast?_concat, if_pos rfl, List.dropLast_concat]
      rw [top]
      exact ih

end UndoStack

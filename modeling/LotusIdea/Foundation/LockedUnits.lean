import Mathlib.Data.List.Lattice
import Mathlib.Logic.Function.Basic
import Mathlib.Logic.Relation

/-!
# Units of work under exclusive locks

Workers lock keys of a store, read what it holds of them, and later commit a change to
what they locked, or leave.  The store may change from outside only where it closes a key
for good.
-/

set_option autoImplicit false

namespace LockedUnits

/-- A unit at work: the keys it locked, and what it read of them. -/
structure Held (K V : Type*) where
  locks : List K
  seen : K → Option V

structure State (W K V S : Type*) where
  store : S
  held : W → Option (Held K V)

section
variable {W K V R S : Type*} [DecidableEq W]
variable (rows : S → K → R) (Shows : R → V → Prop) (Closed : R → Prop)

inductive Step (s : State W K V S) : State W K V S → Prop
  | begin (worker : W) (unit : Held K V)
      (free : ∀ other own, other ≠ worker → s.held other = some own →
        unit.locks.Disjoint own.locks)
      (locked : ∀ key value, unit.seen key = some value → key ∈ unit.locks)
      (read : ∀ key value, unit.seen key = some value → Shows (rows s.store key) value) :
      Step s ⟨s.store, Function.update s.held worker (some unit)⟩
  | commit (worker : W) (unit : Held K V) (next : S) (holds : s.held worker = some unit)
      (within : ∀ key, key ∉ unit.locks → rows next key = rows s.store key) :
      Step s ⟨next, Function.update s.held worker none⟩
  | leave (worker : W) : Step s ⟨s.store, Function.update s.held worker none⟩
  | outside (next : S)
      (kept : ∀ key, Closed (rows next key) ∨ (¬ Closed (rows s.store key) ∧
        ∀ value, Shows (rows s.store key) value → Shows (rows next key) value)) :
      Step s ⟨next, s.held⟩

/-- What the units read is what the store still holds, or is closed by now. -/
structure Current (s : State W K V S) : Prop where
  apart : ∀ worker other unit own, worker ≠ other → s.held worker = some unit →
    s.held other = some own → unit.locks.Disjoint own.locks
  locked : ∀ worker unit key value, s.held worker = some unit →
    unit.seen key = some value → key ∈ unit.locks
  shown : ∀ worker unit key value, s.held worker = some unit →
    unit.seen key = some value → Shows (rows s.store key) value ∨ Closed (rows s.store key)

variable {rows Shows Closed} {s next : State W K V S}

omit [DecidableEq W] in
/-- Units that hold nothing have read nothing that is out of date. -/
theorem Current.idle (none_held : ∀ worker, s.held worker = none) :
    Current rows Shows Closed s where
  apart := by
    intro worker _ _ _ _ holds
    rw [none_held worker] at holds
    cases holds
  locked := by
    intro worker _ _ _ holds
    rw [none_held worker] at holds
    cases holds
  shown := by
    intro worker _ _ _ holds
    rw [none_held worker] at holds
    cases holds

omit [DecidableEq W] in
/-- Fewer units, and a store that is the same where they hold locks. -/
theorem Current.narrowed (current : Current rows Shows Closed s)
    (fewer : ∀ worker unit, next.held worker = some unit → s.held worker = some unit)
    (kept : ∀ worker unit key value, next.held worker = some unit → key ∈ unit.locks →
      Shows (rows s.store key) value ∨ Closed (rows s.store key) →
      Shows (rows next.store key) value ∨ Closed (rows next.store key)) :
    Current rows Shows Closed next where
  apart worker other unit own different holds others :=
    current.apart worker other unit own different (fewer _ _ holds) (fewer _ _ others)
  locked worker unit key value holds seen :=
    current.locked worker unit key value (fewer _ _ holds) seen
  shown := by
    intro worker unit key value holds seen
    have before := fewer _ _ holds
    exact kept worker unit key value holds (current.locked _ _ _ _ before seen)
      (current.shown worker unit key value before seen)

theorem held_of_update {held : W → Option (Held K V)} {worker other : W} {own : Held K V}
    (found : Function.update held worker none other = some own) :
    other ≠ worker ∧ held other = some own := by
  by_cases same : other = worker
  · subst same
    rw [Function.update_self] at found
    cases found
  · rw [Function.update_of_ne same] at found
    exact ⟨same, found⟩

/-- After a unit is begun: the unit, or one that was there. -/
theorem held_of_begin {held : W → Option (Held K V)} {worker other : W} {unit own : Held K V}
    (found : Function.update held worker (some unit) other = some own) :
    (other = worker ∧ own = unit) ∨ (other ≠ worker ∧ held other = some own) := by
  by_cases same : other = worker
  · subst same
    rw [Function.update_self] at found
    exact Or.inl ⟨rfl, (Option.some.inj found).symm⟩
  · rw [Function.update_of_ne same] at found
    exact Or.inr ⟨same, found⟩

theorem Current.begin (current : Current rows Shows Closed s) (worker : W) (unit : Held K V)
    (free : ∀ other own, other ≠ worker → s.held other = some own →
      unit.locks.Disjoint own.locks)
    (locked : ∀ key value, unit.seen key = some value → key ∈ unit.locks)
    (read : ∀ key value, unit.seen key = some value → Shows (rows s.store key) value) :
    Current rows Shows Closed ⟨s.store, Function.update s.held worker (some unit)⟩ where
  apart := by
    intro first second one two different holds others
    rcases held_of_begin holds with ⟨rfl, rfl⟩ | ⟨-, held⟩
    · rcases held_of_begin others with ⟨rfl, -⟩ | ⟨away, there⟩
      · exact absurd rfl different
      · exact free second two away there
    · rcases held_of_begin others with ⟨rfl, rfl⟩ | ⟨-, there⟩
      · exact (free first one different held).symm
      · exact current.apart first second one two different held there
  locked := by
    intro other own key value holds seen
    rcases held_of_begin holds with ⟨rfl, rfl⟩ | ⟨-, held⟩
    · exact locked key value seen
    · exact current.locked other own key value held seen
  shown := by
    intro other own key value holds seen
    rcases held_of_begin holds with ⟨rfl, rfl⟩ | ⟨-, held⟩
    · exact Or.inl (read key value seen)
    · exact current.shown other own key value held seen

theorem Step.current (step : Step rows Shows Closed s next)
    (current : Current rows Shows Closed s) : Current rows Shows Closed next := by
  cases step with
  | begin worker unit free locked read => exact current.begin worker unit free locked read
  | commit worker unit store holds within =>
      refine current.narrowed (fun _ _ found => (held_of_update found).2) ?_
      intro other own key value found member shown
      obtain ⟨different, others⟩ := held_of_update found
      -- The committer's locks are none of the other units'.
      have outside : key ∉ unit.locks := fun mine =>
        current.apart worker other unit own (Ne.symm different) holds others mine member
      rw [within key outside]
      exact shown
  | leave worker =>
      exact current.narrowed (fun _ _ found => (held_of_update found).2)
        fun _ _ _ _ _ _ shown => shown
  | outside store kept =>
      refine current.narrowed (fun _ _ found => found) ?_
      intro _ _ key value _ _ shown
      rcases kept key with closed | ⟨stillOpen, carried⟩
      · exact Or.inr closed
      · rcases shown with shown | closed
        · exact Or.inl (carried value shown)
        · exact absurd closed stillOpen

theorem current_of_run (run : Relation.ReflTransGen (Step rows Shows Closed) s next)
    (current : Current rows Shows Closed s) : Current rows Shows Closed next := by
  induction run with
  | refl => exact current
  | tail _ step ih => exact step.current ih

end

end LockedUnits

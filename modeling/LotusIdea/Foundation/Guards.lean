import Mathlib.Logic.Basic

/-!
# Guards in front of a computation

A guard finds a result, and the computation ends there, or finds none, and it
goes on.  `Guarded` says when a guard lets pass, `Screens` when a whole run goes
on to its last part; what ends a run early is a refusal, or an error on input
that is not valid.  Both compose in the order of the guards.
-/

set_option autoImplicit false

namespace Guards

section Guards
variable {ε α : Type} {refusal : α → Prop} {p q : Prop}

/-- Return the result that a guard found, else go on. -/
def settle (found : Option α) (next : Except ε α) : Except ε α :=
  match found with
  | some a => .ok a
  | none => next

@[simp] theorem settle_some (a : α) (next : Except ε α) : settle (some a) next = .ok a := rfl

@[simp] theorem settle_none (next : Except ε α) : settle none next = next := rfl

theorem settle_or (first second : Option α) (next : Except ε α) :
    settle (first.or second) next = settle first (settle second next) := by
  cases first <;> rfl

/-- The guard lets pass exactly where `passes` holds, and refuses elsewhere. -/
structure Guarded (refusal : α → Prop) (found : Option α) (passes : Prop) : Prop where
  lets : passes → found = none
  stops : ¬passes → ∃ a, found = some a ∧ refusal a

/-- The run goes on to `next` where `passes` holds.  Elsewhere it returns nothing but
refusals, and on `valid` input it does return one. -/
structure Screens (refusal : α → Prop) (valid : Prop) (run : Except ε α) (passes : Prop)
    (next : Except ε α) : Prop where
  goesOn : passes → run = next
  stops : ¬passes → ∀ a, run = .ok a → refusal a
  refuses : valid → ¬passes → ∃ a, run = .ok a

namespace Guarded

theorem free : Guarded refusal (none : Option α) True :=
  ⟨fun _ => rfl, fun closed => absurd trivial closed⟩

theorem closed {a : α} (refuses : refusal a) : Guarded refusal (some a) False :=
  ⟨False.elim, fun _ => ⟨a, rfl, refuses⟩⟩

theorem of_iff {found : Option α} (guarded : Guarded refusal found p) (same : p ↔ q) :
    Guarded refusal found q :=
  ⟨fun holds => guarded.lets (same.mpr holds), fun fails => guarded.stops (mt same.mp fails)⟩

/-- A test that returns `a` where it fails, and asks further elsewhere. -/
theorem test {c : Prop} [Decidable c] {a : α} {found : Option α} (refuses : refusal a)
    (rest : ¬c → Guarded refusal found p) :
    Guarded refusal (if c then some a else found) (¬c ∧ p) := by
  by_cases holds : c
  · rw [if_pos holds]
    exact (closed refuses).of_iff (by simp [holds])
  · rw [if_neg holds]
    exact (rest holds).of_iff (by simp [holds])

theorem last {c : Prop} [Decidable c] {a : α} (refuses : refusal a) :
    Guarded refusal (if c then some a else none) (¬c) :=
  (test refuses fun _ => free).of_iff (by simp)

/-- The second guard is asked only where the first lets pass. -/
theorem or {first second : Option α} (guarded : Guarded refusal first p)
    (further : p → Guarded refusal second q) : Guarded refusal (first.or second) (p ∧ q) := by
  constructor
  · rintro ⟨holds, holdsToo⟩
    rw [guarded.lets holds, (further holds).lets holdsToo]
    rfl
  · intro fails
    by_cases holds : p
    · obtain ⟨a, found, refuses⟩ := (further holds).stops fun holdsToo => fails ⟨holds, holdsToo⟩
      refine ⟨a, ?_, refuses⟩
      rw [guarded.lets holds, found]
      rfl
    · obtain ⟨a, found, refuses⟩ := guarded.stops holds
      refine ⟨a, ?_, refuses⟩
      rw [found]
      rfl

/-- A run behind a guard. -/
theorem screens {found : Option α} (guarded : Guarded refusal found p) (next : Except ε α) :
    Screens refusal True (settle found next) p next := by
  constructor
  · intro holds
    rw [guarded.lets holds, settle_none]
  · intro fails a returned
    obtain ⟨b, stopped, refuses⟩ := guarded.stops fails
    rw [stopped, settle_some] at returned
    cases returned
    exact refuses
  · intro _ fails
    obtain ⟨b, stopped, -⟩ := guarded.stops fails
    exact ⟨b, by rw [stopped, settle_some]⟩

end Guarded

namespace Screens
variable {valid further : Prop} {run middle next : Except ε α}

/-- The condition in other words, and fewer inputs that count as valid. -/
theorem mono (screens : Screens refusal valid run p next) (fewer : further → valid)
    (same : p ↔ q) : Screens refusal further run q next :=
  ⟨fun holds => screens.goesOn (same.mpr holds), fun fails => screens.stops (mt same.mp fails),
    fun holds fails => screens.refuses (fewer holds) (mt same.mp fails)⟩

theorem goes : Screens refusal True run True run :=
  ⟨fun _ => rfl, fun closed => absurd trivial closed, fun _ closed => absurd trivial closed⟩

theorem refused {a : α} (refuses : refusal a) : Screens refusal valid (.ok a) False next := by
  refine ⟨False.elim, ?_, fun _ _ => ⟨a, rfl⟩⟩
  intro _ b returned
  cases returned
  exact refuses

/-- A test that ends the run where it holds. -/
theorem test {c : Prop} [Decidable c] {a : α} (refuses : refusal a)
    (rest : Screens refusal valid run p next) :
    Screens refusal valid (if c then .ok a else run) (¬c ∧ p) next := by
  by_cases holds : c
  · rw [if_pos holds]
    exact (refused refuses).mono id (by simp [holds])
  · rw [if_neg holds]
    exact rest.mono id (by simp [holds])

/-- A test that ends the run where it fails. -/
theorem branch {c : Prop} [Decidable c] {a : α} (refuses : refusal a)
    (rest : Screens refusal valid run p next) :
    Screens refusal valid (if c then run else .ok a) (c ∧ p) next := by
  by_cases holds : c
  · rw [if_pos holds]
    exact rest.mono id (by simp [holds])
  · rw [if_neg holds]
    exact (refused refuses).mono id (by simp [holds])

/-- A run that goes on to a run that goes on; the second part has to do with
valid input only where the first lets pass. -/
theorem trans (first : Screens refusal valid run p middle)
    (second : p → Screens refusal further middle q next) :
    Screens refusal (valid ∧ (p → further)) run (p ∧ q) next := by
  constructor
  · rintro ⟨holds, holdsToo⟩
    rw [first.goesOn holds, (second holds).goesOn holdsToo]
  · intro fails a returned
    by_cases holds : p
    · rw [first.goesOn holds] at returned
      exact (second holds).stops (fun holdsToo => fails ⟨holds, holdsToo⟩) a returned
    · exact first.stops holds a returned
  · rintro ⟨validFirst, validSecond⟩ fails
    by_cases holds : p
    · rw [first.goesOn holds]
      exact (second holds).refuses (validSecond holds) fun holdsToo => fails ⟨holds, holdsToo⟩
    · exact first.refuses validFirst holds

/-- A check in front of a run: what does not pass raises. -/
theorem checked {check : Except ε PUnit} (same : check = .ok ⟨⟩ ↔ valid)
    (rest : valid → Screens refusal further run p next) :
    Screens refusal (valid ∧ further) (check >>= fun _ => run) (valid ∧ p) next := by
  cases ran : check with
  | error raised =>
      refine ⟨?_, ?_, ?_⟩
      · intro passed
        cases ran.symm.trans (same.mpr passed.1)
      · intro _ a returned
        cases returned
      · intro holds
        cases ran.symm.trans (same.mpr holds.1)
  | ok passed =>
      have holds : valid := same.mp ran
      exact (rest holds).mono And.right (by simp [holds])

end Screens

/-- A guard behind checks of its own: it raises on no `valid` input, and lets
pass what is valid and `passes`. -/
structure Finds (refusal : α → Prop) (guard : Except ε (Option α)) (valid passes : Prop) :
    Prop where
  refuses : ∀ a, guard = .ok (some a) → refusal a
  total : valid → ∃ answer, guard = .ok answer
  lets : guard = .ok none ↔ valid ∧ passes

namespace Finds
variable {valid : Prop} {guard : Except ε (Option α)}

theorem mono (finds : Finds refusal guard valid p) (same : valid → (p ↔ q)) :
    Finds refusal guard valid q :=
  ⟨finds.refuses, finds.total, finds.lets.trans (and_congr_right same)⟩

theorem refused {a : α} (refuses : refusal a) :
    Finds refusal (.ok (some a) : Except ε (Option α)) valid False := by
  refine ⟨?_, fun _ => ⟨some a, rfl⟩, ?_⟩
  · intro b returned
    cases returned
    exact refuses
  · simp

theorem checked {check : Except ε PUnit} {found : Option α} (same : check = .ok ⟨⟩ ↔ valid)
    (guarded : Guarded refusal found p) :
    Finds refusal (check >>= fun _ => pure found) valid p := by
  cases check with
  | error raised =>
      have invalid : ¬valid := by
        intro holds
        cases same.mpr holds
      refine ⟨?_, fun holds => absurd holds invalid, ?_⟩
      · intro a returned
        cases returned
      · constructor
        · intro returned
          cases returned
        · exact fun holds => absurd holds.1 invalid
  | ok passed =>
      have holds : valid := same.mp rfl
      have returns : ((.ok passed : Except ε PUnit) >>= fun _ => pure found) = .ok found := rfl
      rw [returns]
      refine ⟨?_, fun _ => ⟨found, rfl⟩, ?_⟩
      · intro a returned
        cases returned
        by_cases lets : p
        · cases guarded.lets lets
        · obtain ⟨b, stopped, refuses⟩ := guarded.stops lets
          cases stopped
          exact refuses
      · constructor
        · intro returned
          cases returned
          by_cases lets : p
          · exact ⟨holds, lets⟩
          · obtain ⟨a, stopped, -⟩ := guarded.stops lets
            cases stopped
        · rintro ⟨-, lets⟩
          rw [guarded.lets lets]

theorem screens (finds : Finds refusal guard valid p) (next : Except ε α) :
    Screens refusal valid (guard >>= fun answer => settle answer next) (valid ∧ p) next := by
  cases ran : guard with
  | error raised =>
      refine ⟨?_, ?_, ?_⟩
      · intro passed
        cases ran.symm.trans (finds.lets.mpr passed)
      · intro _ a returned
        cases returned
      · intro holds
        obtain ⟨answer, returned⟩ := finds.total holds
        cases ran.symm.trans returned
  | ok answer =>
      cases answer with
      | none =>
          have passed := finds.lets.mp ran
          exact ⟨fun _ => rfl, fun fails => absurd passed fails, fun _ fails => absurd passed fails⟩
      | some own =>
          refine ⟨?_, ?_, fun _ _ => ⟨own, rfl⟩⟩
          · intro passed
            cases ran.symm.trans (finds.lets.mpr passed)
          · intro _ a returned
            cases returned
            exact finds.refuses own ran

end Finds

end Guards

end Guards

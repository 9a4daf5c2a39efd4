import Mathlib.Data.List.Basic

/-!
# Runs of a state machine

A machine takes its state through a list of calls.  What one call preserves
under a precondition on the call, a whole run of such calls preserves; what one
call relates, a run relates when the relation is reflexive and transitive.
-/

set_option autoImplicit false

namespace Runs

universe u v
variable {σ : Type u} {ι : Type v}

/-- The state after a list of calls. -/
def run (step : σ → ι → σ) (start : σ) (calls : List ι) : σ := calls.foldl step start

section
variable (step : σ → ι → σ) (start : σ)

@[simp] theorem run_nil : run step start [] = start := rfl

@[simp] theorem run_cons (call : ι) (rest : List ι) :
    run step start (call :: rest) = run step (step start call) rest := rfl

@[simp] theorem run_append (first later : List ι) :
    run step start (first ++ later) = run step (run step start first) later :=
  List.foldl_append

theorem run_concat (first : List ι) (call : ι) :
    run step start (first ++ [call]) = step (run step start first) call := by
  simp

end

/-- An invariant that every admissible call keeps holds after every run of
admissible calls. -/
theorem invariant (step : σ → ι → σ) (Admissible : ι → Prop) (Inv : σ → Prop)
    (keeps : ∀ s call, Admissible call → Inv s → Inv (step s call))
    {start : σ} (initially : Inv start) {calls : List ι}
    (admissible : ∀ call ∈ calls, Admissible call) : Inv (run step start calls) := by
  induction calls generalizing start with
  | nil => exact initially
  | cons call rest ih =>
      have now := keeps start call (admissible call List.mem_cons_self) initially
      exact ih now fun c member => admissible c (List.mem_cons_of_mem _ member)

/-- Every call of a run meets a condition in the state in which it is made. -/
def Throughout (step : σ → ι → σ) (Cond : σ → ι → Prop) (start : σ) : List ι → Prop
  | [] => True
  | call :: rest => Cond start call ∧ Throughout step Cond (step start call) rest

/-- An invariant that every call keeps when it meets a condition holds after every
run whose calls all meet it. -/
theorem invariant_throughout (step : σ → ι → σ) (Cond : σ → ι → Prop) (Inv : σ → Prop)
    (keeps : ∀ s call, Cond s call → Inv s → Inv (step s call))
    {start : σ} (initially : Inv start) {calls : List ι}
    (met : Throughout step Cond start calls) : Inv (run step start calls) := by
  induction calls generalizing start with
  | nil => exact initially
  | cons call rest ih => exact ih (keeps start call met.1 initially) met.2

theorem throughout_append {step : σ → ι → σ} {Cond : σ → ι → Prop} {start : σ}
    {first later : List ι} : Throughout step Cond start (first ++ later) ↔
      Throughout step Cond start first ∧ Throughout step Cond (run step start first) later := by
  induction first generalizing start with
  | nil => simp [Throughout]
  | cons call rest ih => simp [Throughout, ih, and_assoc]

/-- Every call meets the condition when each does after the calls before it. -/
theorem throughout_iff {step : σ → ι → σ} {Cond : σ → ι → Prop} {start : σ} {calls : List ι} :
    Throughout step Cond start calls ↔
      ∀ first call later, calls = first ++ call :: later → Cond (run step start first) call := by
  constructor
  · rintro met first call later rfl
    exact (throughout_append.mp met).2.1
  · intro each
    induction calls generalizing start with
    | nil => trivial
    | cons call rest ih =>
        refine ⟨each [] call rest rfl, ih ?_⟩
        intro first c later split
        exact each (call :: first) c later (by rw [split, List.cons_append])

/-- A reflexive and transitive relation that every call establishes under its
condition holds between the ends of a run whose calls all meet it. -/
theorem related_throughout (step : σ → ι → σ) (Cond : σ → ι → Prop) (Inv : σ → Prop)
    (R : σ → σ → Prop) (refl : ∀ s, R s s) (trans : ∀ a b c, R a b → R b c → R a c)
    (keeps : ∀ s call, Cond s call → Inv s → Inv (step s call))
    (establishes : ∀ s call, Cond s call → Inv s → R s (step s call))
    {start : σ} (initially : Inv start) {calls : List ι}
    (met : Throughout step Cond start calls) : R start (run step start calls) := by
  induction calls generalizing start with
  | nil => exact refl start
  | cons call rest ih =>
      exact trans _ _ _ (establishes start call met.1 initially)
        (ih (keeps start call met.1 initially) met.2)

theorem throughout_and {step : σ → ι → σ} {First Second : σ → ι → Prop} {start : σ}
    {calls : List ι} (first : Throughout step First start calls)
    (second : Throughout step Second start calls) :
    Throughout step (fun s c => First s c ∧ Second s c) start calls := by
  induction calls generalizing start with
  | nil => trivial
  | cons call rest ih => exact ⟨⟨first.1, second.1⟩, ih first.2 second.2⟩

theorem throughout_of_forall {step : σ → ι → σ} {Cond : σ → ι → Prop} {calls : List ι}
    (always : ∀ call ∈ calls, ∀ s, Cond s call) (start : σ) : Throughout step Cond start calls := by
  induction calls generalizing start with
  | nil => trivial
  | cons call rest ih =>
      refine ⟨always call List.mem_cons_self start, ih ?_ _⟩
      intro c member
      exact always c (List.mem_cons_of_mem _ member)

/-- A reflexive and transitive relation that every admissible call establishes
between the states around it holds between the ends of every run. -/
theorem related (step : σ → ι → σ) (Admissible : ι → Prop) (Inv : σ → Prop) (R : σ → σ → Prop)
    (refl : ∀ s, R s s) (trans : ∀ a b c, R a b → R b c → R a c)
    (keeps : ∀ s call, Admissible call → Inv s → Inv (step s call))
    (establishes : ∀ s call, Admissible call → Inv s → R s (step s call))
    {start : σ} (initially : Inv start) {calls : List ι}
    (admissible : ∀ call ∈ calls, Admissible call) : R start (run step start calls) := by
  induction calls generalizing start with
  | nil => exact refl start
  | cons call rest ih =>
      have good := admissible call List.mem_cons_self
      have further : ∀ c ∈ rest, Admissible c := fun c member =>
        admissible c (List.mem_cons_of_mem _ member)
      exact trans _ _ _ (establishes start call good initially)
        (ih (keeps start call good initially) further)

/-- What holds after a run and not before it was brought about by one of its calls. -/
theorem first_cause (step : σ → ι → σ) (P : σ → Prop) {start : σ} {calls : List ι}
    (absent : ¬ P start) (holds : P (run step start calls)) :
    ∃ first call later, calls = first ++ call :: later ∧ ¬ P (run step start first) ∧
      P (step (run step start first) call) := by
  induction calls generalizing start with
  | nil => exact absurd holds absent
  | cons call rest ih =>
      by_cases now : P (step start call)
      · exact ⟨[], call, rest, rfl, absent, now⟩
      · obtain ⟨first, cause, later, whole, before, after⟩ := ih now holds
        refine ⟨call :: first, cause, later, ?_, before, after⟩
        rw [whole, List.cons_append]

end Runs

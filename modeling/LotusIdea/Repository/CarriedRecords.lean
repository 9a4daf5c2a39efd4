import LotusIdea.Foundation.CarriedValues
import LotusIdea.Repository.Suppression

/-!
# Relations between the records of two states

A state carries its records to another one as their dictionary does.  A condition on a call decides the relation when it is
enough for the call, and a call that stores a record needs it.
-/

set_option autoImplicit false

namespace LotusIdea

open IdeaRepository (PersistRequest LifecycleRequest TransitionRequest ResultRequest LineageRequest)

section
variable [Sha256]
variable {R : CandidatePersistenceRecord → CandidatePersistenceRecord → Prop}

namespace IdeaRepository

def Carries (R : CandidatePersistenceRecord → CandidatePersistenceRecord → Prop)
    (s t : IdeaRepository) : Prop :=
  s.candidateRecords.Carries R t.candidateRecords

/-- What the three kinds of call that store a record owe to a condition that decides
a relation. -/
structure Decides (R : CandidatePersistenceRecord → CandidatePersistenceRecord → Prop)
    (Cond : IdeaRepository → RepositoryCall → Prop) : Prop where
  refl : ∀ r, R r r
  writes : ∀ (s : IdeaRepository) (call : MutationCall) (m : AcceptedMutation), call.Governed →
    call.plan s = .ok (.accept m) →
    ((∀ old, s.candidateRecords.get? m.candidateId = some old → R old m.record) ↔
      Cond s (.mutate call))
  moves : ∀ (s : IdeaRepository) (q : TransitionRequest)
    (record updated : CandidatePersistenceRecord) (auditEvent : AuditEvent),
    s.candidateRecords.get? q.candidateId = some record →
    transitionRecord record q.targetStatus q.actorSubject q.occurredAtUtc [] =
      .ok (updated, auditEvent) →
    (R record updated ↔ Cond s (.transition q))
  explains : ∀ (s : IdeaRepository) (c : RepositoryCall) (q : LineageRequest)
    (lineage : AIExplanationLineageRecord) (record updated : CandidatePersistenceRecord),
    (c = .recordLineage q ∨ ∃ key payload, c = .recordLineageRequest q key payload) →
    LineageAccepted s q lineage record updated → (R record updated ↔ Cond s c)

section
variable {Cond : IdeaRepository → RepositoryCall → Prop}

theorem carries_after_step (decides : Decides R Cond) {s : IdeaRepository} (keyed : s.Keyed)
    {c : RepositoryCall} (governed : c.Governed) :
    (Cond s c → s.Carries R (s.step c)) ∧
    ((s.step c).candidateRecords ≠ s.candidateRecords →
      (s.Carries R (s.step c) ↔ Cond s c)) := by
  have stores : (s.step c).candidateRecords = s.candidateRecords ∨
      (s.Carries R (s.step c) ↔ Cond s c) := by
    have after := records_after_step keyed c
    rw [Carries]
    generalize (s.step c).candidateRecords = records at after ⊢
    cases after with
    | same => exact Or.inl rfl
    | written call isCall m planned =>
        subst isCall
        right
        rw [Dict.carries_set decides.refl]
        exact decides.writes s call m governed planned
    | moved q isCall record updated auditEvent stored moved =>
        subst isCall
        right
        rw [Dict.carries_set decides.refl, Dict.forall_bound_iff stored]
        exact decides.moves s q record updated auditEvent stored moved
    | explained q isCall lineage record updated accepted =>
        right
        rw [Dict.carries_set decides.refl, Dict.forall_bound_iff accepted.stored]
        exact decides.explains s c q lineage record updated isCall accepted
  rcases stores with same | exactly
  · refine ⟨fun _ => ?_, fun changed => absurd same changed⟩
    rw [Carries, same]
    exact Dict.carries_refl decides.refl _
  · exact ⟨exactly.mpr, fun _ => exactly⟩

/-- In a run whose calls all meet the condition every stretch carries the records; in
the state that a run reaches, a call that stores a record carries them only when it
meets the condition. -/
theorem carries_over_runs (decides : Decides R Cond) (trans : ∀ a b c, R a b → R b c → R a c)
    {first later : List RepositoryCall} (governed : ∀ c ∈ first ++ later, c.Governed) :
    (Runs.Throughout step Cond empty (first ++ later) →
      (empty.run first).Carries R (empty.run (first ++ later))) ∧
    ∀ c : RepositoryCall, c.Governed →
      ((empty.run first).step c).candidateRecords ≠ (empty.run first).candidateRecords →
      ((empty.run first).Carries R ((empty.run first).step c) ↔ Cond (empty.run first) c) := by
  have before : ∀ c ∈ first, c.Governed := fun c member =>
    governed c (List.mem_append_left later member)
  have keyed : (empty.run first).Keyed := keyed_after_run keyed_empty before
  refine ⟨?_, ?_⟩
  · intro met
    have admitted : Runs.Throughout step (fun s c => Cond s c ∧ c.Governed) empty
        (first ++ later) :=
      Runs.throughout_and met (Runs.throughout_of_forall (fun c member _ => governed c member) _)
    have whole : empty.run (first ++ later) = Runs.run step (empty.run first) later :=
      Runs.run_append _ _ _ _
    rw [whole]
    exact Runs.related_throughout step (fun s c => Cond s c ∧ c.Governed) Keyed (Carries R)
      (fun s => Dict.carries_refl decides.refl _)
      (fun s t u before after => Dict.carries_trans trans before after)
      (fun s c conditions inv => keyed_after_step inv conditions.2)
      (fun s c conditions inv => (carries_after_step decides inv conditions.2).1 conditions.1)
      keyed (Runs.throughout_append.mp admitted).2
  · intro c good changed
    exact (carries_after_step decides keyed good).2 changed

end

end IdeaRepository

end

end LotusIdea

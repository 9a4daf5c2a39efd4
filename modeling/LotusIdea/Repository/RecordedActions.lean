import LotusIdea.Foundation.ActionIndex
import LotusIdea.Repository.Writes

/-!
# Recorded actions

The decisions, feedback events, intents, outcomes and packs of the records, and
what a call adds to them.  Reviews, feedback and outcomes are looked up by their
ids before they are recorded, so those ids stay unique.
-/

set_option autoImplicit false

namespace LotusIdea

open IdeaRepository (ResultRequest LineageRequest PrecheckRequest)

/-! ## The actions of a record -/

structure RecordedActions where
  decisions : List GovernedReviewDecision := []
  feedback : List GovernedFeedbackEvent := []
  intents : List GovernedConversionIntent := []
  outcomes : List GovernedConversionOutcome := []
  packs : List GovernedReportEvidencePack := []

def CandidatePersistenceRecord.actions (r : CandidatePersistenceRecord) : RecordedActions where
  decisions := r.val.reviewDecisions
  feedback := r.val.feedbackEvents
  intents := r.val.conversionIntents
  outcomes := r.val.conversionOutcomes
  packs := r.val.reportEvidencePacks

namespace CandidatePersistenceRecord

def decisions (r : CandidatePersistenceRecord) : List GovernedReviewDecision := r.actions.decisions

def feedback (r : CandidatePersistenceRecord) : List GovernedFeedbackEvent := r.actions.feedback

def outcomes (r : CandidatePersistenceRecord) : List GovernedConversionOutcome := r.actions.outcomes

end CandidatePersistenceRecord

theorem lists_of_actions {r : CandidatePersistenceRecord} {actions : RecordedActions}
    (recorded : r.actions = actions) :
    r.decisions = actions.decisions ∧ r.feedback = actions.feedback ∧
      r.outcomes = actions.outcomes := by
  subst recorded
  exact ⟨rfl, rfl, rfl⟩

def GovernedReviewDecision.id (d : GovernedReviewDecision) : String := d.val.reviewId

def GovernedFeedbackEvent.id (e : GovernedFeedbackEvent) : String := e.val.feedback.val.feedbackId

def GovernedConversionOutcome.id (o : GovernedConversionOutcome) : String :=
  o.val.outcome.val.conversionOutcomeId

section
variable [Sha256]

/-! ## Identities that are not stored -/

theorem decision_unheld {s : IdeaRepository} {d : GovernedReviewDecision}
    (unseen : s.reviewIdentityRecord (reviewMutationIdentityFromDecision d) = none) :
    IdUnheld CandidatePersistenceRecord.decisions GovernedReviewDecision.id s.candidateRecords
      d.id := by
  intro key record stored other held same
  have absent := List.findSome?_eq_none_iff.mp unseen record (Dict.mem_values_of_get? stored)
  simp only [Option.map_eq_none_iff, List.find?_eq_none] at absent
  refine absent (reviewMutationIdentityFromDecision other) ?_ ?_
  · exact List.mem_append_left _ (List.mem_map_of_mem held)
  · have named : other.val.reviewId = d.val.reviewId := same
    simp [reviewMutationIdentityFromDecision, named]

theorem feedback_unheld {s : IdeaRepository} {e : GovernedFeedbackEvent}
    (unseen : s.reviewIdentityRecord (feedbackMutationIdentityFromEvent e) = none) :
    IdUnheld CandidatePersistenceRecord.feedback GovernedFeedbackEvent.id s.candidateRecords
      e.id := by
  intro key record stored other held same
  have absent := List.findSome?_eq_none_iff.mp unseen record (Dict.mem_values_of_get? stored)
  simp only [Option.map_eq_none_iff, List.find?_eq_none] at absent
  refine absent (feedbackMutationIdentityFromEvent other) ?_ ?_
  · exact List.mem_append_right _ (List.mem_map_of_mem held)
  · have named : other.val.feedback.val.feedbackId = e.val.feedback.val.feedbackId := same
    simp [feedbackMutationIdentityFromEvent, named]

theorem outcome_unheld {s : IdeaRepository} {conversionOutcomeId : String}
    (unseen : s.conversionOutcomeIdentityRecord conversionOutcomeId = none) :
    IdUnheld CandidatePersistenceRecord.outcomes GovernedConversionOutcome.id s.candidateRecords
      conversionOutcomeId := by
  intro key record stored other held same
  have absent := List.findSome?_eq_none_iff.mp unseen record (Dict.mem_values_of_get? stored)
  simp only [Option.map_eq_none_iff, List.find?_eq_none] at absent
  refine absent (GovernedConversionOutcome.identity other) (List.mem_map_of_mem held) ?_
  exact decide_eq_true same

/-! ## What a call adds -/

/-- The records as they were, or with one of them replaced: by one with the same
actions, or by one that has gained the action of the call. -/
inductive ActionsRecorded (s : IdeaRepository) (c : RepositoryCall) : CandidateRecords → Prop where
  | untouched : ActionsRecorded s c s.candidateRecords
  | created {candidateId : String} {record : CandidatePersistenceRecord}
      (absent : s.candidateRecords.get? candidateId = none) (none_ : record.actions = {}) :
      ActionsRecorded s c (s.candidateRecords.set candidateId record)
  | kept {candidateId : String} {old record : CandidatePersistenceRecord}
      (stored : s.candidateRecords.get? candidateId = some old)
      (same : record.actions = old.actions) :
      ActionsRecorded s c (s.candidateRecords.set candidateId record)
  | reviewed (q : ResultRequest ReviewActionResult) {old record : CandidatePersistenceRecord}
      (isCall : c = .mutate (.recordReviewAction q))
      (stored : s.candidateRecords.get? q.result.decision.val.candidateId = some old)
      (unseen : s.reviewIdentityRecord (reviewMutationIdentityFromDecision q.result.decision) =
        none)
      (grown : record.actions =
        { old.actions with decisions := old.actions.decisions ++ [q.result.decision] }) :
      ActionsRecorded s c (s.candidateRecords.set q.result.decision.val.candidateId record)
  | feedback (q : ResultRequest FeedbackResult) {old record : CandidatePersistenceRecord}
      (isCall : c = .mutate (.recordFeedbackEvent q))
      (stored : s.candidateRecords.get? q.result.feedbackEvent.val.candidateId = some old)
      (unseen : s.reviewIdentityRecord (feedbackMutationIdentityFromEvent q.result.feedbackEvent) =
        none)
      (grown : record.actions =
        { old.actions with feedback := old.actions.feedback ++ [q.result.feedbackEvent] }) :
      ActionsRecorded s c (s.candidateRecords.set q.result.feedbackEvent.val.candidateId record)
  | converted (q : ResultRequest ConversionIntentResult) {old record : CandidatePersistenceRecord}
      (isCall : c = .mutate (.recordConversionIntent q))
      (stored : s.candidateRecords.get? q.result.conversionIntent.val.intent.val.candidateId =
        some old)
      (grown : record.actions =
        { old.actions with intents := old.actions.intents ++ [q.result.conversionIntent] }) :
      ActionsRecorded s c
        (s.candidateRecords.set q.result.conversionIntent.val.intent.val.candidateId record)
  | outcome (q : ResultRequest ConversionOutcomeResult) {candidateId : String}
      {old record : CandidatePersistenceRecord}
      (isCall : c = .mutate (.recordConversionOutcome q))
      (leads : s.conversionIntentCandidates.get?
        q.result.conversionOutcome.val.conversionIntentId = some candidateId)
      (stored : s.candidateRecords.get? candidateId = some old)
      (unseen : s.conversionOutcomeIdentityRecord q.result.conversionOutcome.id = none)
      (grown : record.actions =
        { old.actions with outcomes := old.actions.outcomes ++ [q.result.conversionOutcome] }) :
      ActionsRecorded s c (s.candidateRecords.set candidateId record)
  | packed (q : ResultRequest ReportEvidencePackResult) {old record : CandidatePersistenceRecord}
      (isCall : c = .mutate (.recordReportEvidencePack q))
      (stored : s.candidateRecords.get? q.result.evidencePack.val.candidateId = some old)
      (grown : record.actions =
        { old.actions with packs := old.actions.packs ++ [q.result.evidencePack] }) :
      ActionsRecorded s c (s.candidateRecords.set q.result.evidencePack.val.candidateId record)

theorem write_recorded {s : IdeaRepository} {c : MutationCall} {m : AcceptedMutation}
    (planned : c.plan s = .ok (.accept m)) :
    ActionsRecorded s (.mutate c) (s.candidateRecords.set m.candidateId m.record) := by
  obtain ⟨writes, _⟩ := mutation_writes planned
  cases writes with
  | created q entry auditEvent _ absent _ record _ =>
      exact .created absent (by rw [CandidatePersistenceRecord.actions, record])
  | reconciled q old candidate entry auditEvent stored _ _ record _ =>
      exact .kept stored (by rw [CandidatePersistenceRecord.actions, record]; rfl)
  | transitioned q old attributes stored _ moved _ =>
      obtain ⟨candidate, entry, _, record⟩ := (transitionRecord_moved moved).record
      exact .kept stored (by rw [CandidatePersistenceRecord.actions, record]; rfl)
  | reviewed q old history named stored unseen _ record _ =>
      rw [named] at stored ⊢
      exact .reviewed q rfl stored unseen (by rw [CandidatePersistenceRecord.actions, record]; rfl)
  | feedback q old named stored unseen record _ =>
      rw [named] at stored ⊢
      exact .feedback q rfl stored unseen (by rw [CandidatePersistenceRecord.actions, record]; rfl)
  | converted q old history grant named stored _ _ _ record _ =>
      rw [named] at stored ⊢
      exact .converted q rfl stored (by rw [CandidatePersistenceRecord.actions, record]; rfl)
  | outcome q old leads stored unseen _ record _ =>
      exact .outcome q rfl leads stored unseen
        (by rw [CandidatePersistenceRecord.actions, record]; rfl)
  | packed q old named stored record _ =>
      rw [named] at stored ⊢
      exact .packed q rfl stored (by rw [CandidatePersistenceRecord.actions, record]; rfl)

theorem actions_after_step {s : IdeaRepository} (keyed : s.Keyed) (c : RepositoryCall) :
    ActionsRecorded s c (s.step c).candidateRecords := by
  have after := records_after_step keyed c
  generalize (s.step c).candidateRecords = records at after ⊢
  cases after with
  | same => exact .untouched
  | written call isCall m planned =>
      subst isCall
      exact write_recorded planned
  | moved q _ record updated auditEvent stored moved =>
      obtain ⟨candidate, entry, _, fields⟩ := (transitionRecord_moved moved).record
      exact .kept stored (by rw [CandidatePersistenceRecord.actions, fields]; rfl)
  | explained q _ lineage record updated accepted =>
      exact .kept accepted.stored
        (by rw [CandidatePersistenceRecord.actions, accepted.fields]; rfl)

/-! ## Unique ids -/

/-- Review, feedback and outcome ids are unique over the store. -/
structure ActionIdsUnique (s : IdeaRepository) : Prop where
  decisions : UniqueIds CandidatePersistenceRecord.decisions GovernedReviewDecision.id
    s.candidateRecords
  feedback : UniqueIds CandidatePersistenceRecord.feedback GovernedFeedbackEvent.id
    s.candidateRecords
  outcomes : UniqueIds CandidatePersistenceRecord.outcomes GovernedConversionOutcome.id
    s.candidateRecords

theorem actionIdsUnique_after_step {s : IdeaRepository} (keyed : s.Keyed) (c : RepositoryCall)
    (unique : ActionIdsUnique s) : ActionIdsUnique (s.step c) := by
  have recorded := actions_after_step keyed c
  suffices all : ∀ records, ActionsRecorded s c records →
      UniqueIds CandidatePersistenceRecord.decisions GovernedReviewDecision.id records ∧
      UniqueIds CandidatePersistenceRecord.feedback GovernedFeedbackEvent.id records ∧
      UniqueIds CandidatePersistenceRecord.outcomes GovernedConversionOutcome.id records by
    obtain ⟨decisions, feedback, outcomes⟩ := all _ recorded
    exact ⟨decisions, feedback, outcomes⟩
  intro records step
  cases step with
  | untouched => exact ⟨unique.decisions, unique.feedback, unique.outcomes⟩
  | created absent none_ =>
      obtain ⟨decisions, feedback, outcomes⟩ := lists_of_actions none_
      exact ⟨unique.decisions.replaced (Or.inl ⟨absent, decisions⟩),
        unique.feedback.replaced (Or.inl ⟨absent, feedback⟩),
        unique.outcomes.replaced (Or.inl ⟨absent, outcomes⟩)⟩
  | kept stored same =>
      obtain ⟨decisions, feedback, outcomes⟩ := lists_of_actions same
      exact ⟨unique.decisions.replaced (Or.inr ⟨_, stored, decisions⟩),
        unique.feedback.replaced (Or.inr ⟨_, stored, feedback⟩),
        unique.outcomes.replaced (Or.inr ⟨_, stored, outcomes⟩)⟩
  | reviewed q _ stored unseen grown =>
      obtain ⟨decisions, feedback, outcomes⟩ := lists_of_actions grown
      exact ⟨unique.decisions.added stored decisions (decision_unheld unseen),
        unique.feedback.replaced (Or.inr ⟨_, stored, feedback⟩),
        unique.outcomes.replaced (Or.inr ⟨_, stored, outcomes⟩)⟩
  | feedback q _ stored unseen grown =>
      obtain ⟨decisions, feedback, outcomes⟩ := lists_of_actions grown
      exact ⟨unique.decisions.replaced (Or.inr ⟨_, stored, decisions⟩),
        unique.feedback.added stored feedback (feedback_unheld unseen),
        unique.outcomes.replaced (Or.inr ⟨_, stored, outcomes⟩)⟩
  | outcome q _ leads stored unseen grown =>
      obtain ⟨decisions, feedback, outcomes⟩ := lists_of_actions grown
      exact ⟨unique.decisions.replaced (Or.inr ⟨_, stored, decisions⟩),
        unique.feedback.replaced (Or.inr ⟨_, stored, feedback⟩),
        unique.outcomes.added stored outcomes (outcome_unheld unseen)⟩
  | converted q _ stored grown | packed q _ stored grown =>
      obtain ⟨decisions, feedback, outcomes⟩ := lists_of_actions grown
      exact ⟨unique.decisions.replaced (Or.inr ⟨_, stored, decisions⟩),
        unique.feedback.replaced (Or.inr ⟨_, stored, feedback⟩),
        unique.outcomes.replaced (Or.inr ⟨_, stored, outcomes⟩)⟩

theorem actionIdsUnique_empty : ActionIdsUnique IdeaRepository.empty :=
  ⟨UniqueIds.empty, UniqueIds.empty, UniqueIds.empty⟩

theorem run_actionIdsUnique {calls : List RepositoryCall} (governed : ∀ c ∈ calls, c.Governed) :
    (IdeaRepository.empty.run calls).Keyed ∧ ActionIdsUnique (IdeaRepository.empty.run calls) :=
  Runs.invariant IdeaRepository.step RepositoryCall.Governed
    (fun s => s.Keyed ∧ ActionIdsUnique s)
    (fun _ c good inv => ⟨keyed_after_step inv.1 good, actionIdsUnique_after_step inv.1 c inv.2⟩)
    ⟨keyed_empty, actionIdsUnique_empty⟩ governed

end

end LotusIdea

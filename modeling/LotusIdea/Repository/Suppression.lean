import LotusIdea.Domain.ReviewQueue
import LotusIdea.Domain.ReviewStates
import LotusIdea.Repository.AuditTrail
import LotusIdea.Repository.RevokedAuthority

/-!
# Suppression over runs

A candidate is suppressed for a reason when its posture and its suppression reason
tell the same.  `KeepsSuppression` is the condition on a call, in the state in
which it is made, under which they still do after it.
-/

set_option autoImplicit false

namespace LotusIdea

open IdeaRepository (PersistRequest LifecycleRequest TransitionRequest ResultRequest LineageRequest)

section
variable [Sha256]

namespace IdeaRepository

def SuppressionConsistent (s : IdeaRepository) : Prop :=
  ∀ id record, s.candidateRecords.get? id = some record →
    record.val.candidate.SuppressionConsistent

/-- No candidate that is stored under the id is suppressed. -/
def NotSuppressed (s : IdeaRepository) (candidateId : String) : Prop :=
  ∀ record, s.candidateRecords.get? candidateId = some record →
    record.val.candidate.val.reviewPosture ≠ .suppressed

/-- A candidate comes in consistent, and as no suppressed material version of a
stored one; no transition that settles the posture, and no review but a suppression
or a snooze, is made of a suppressed candidate. -/
def KeepsSuppression (s : IdeaRepository) : RepositoryCall → Prop
  | .mutate (.persistCandidate q) =>
      match s.candidateRecords.get? q.candidate.val.candidateId with
      | none => q.candidate.SuppressionConsistent
      | some existing =>
          startsMaterialVersion existing.val.candidate q.candidate = true →
            q.candidate.val.reviewPosture ≠ .suppressed
  | .mutate (.recordLifecycleTransition q) =>
      (normalizedTransitionPostures q.targetStatus).isSome = true → s.NotSuppressed q.candidateId
  | .transition q =>
      (normalizedTransitionPostures q.targetStatus).isSome = true → s.NotSuppressed q.candidateId
  | .mutate (.recordReviewAction q) =>
      q.result.decision.val.action ≠ .suppress → q.result.decision.val.action ≠ .snooze →
        s.NotSuppressed q.result.decision.val.candidateId
  | _ => True

end IdeaRepository

/-! ## What an accepted call decides -/

section
variable {s : IdeaRepository}

theorem notSuppressed_iff {candidateId : String} {record : CandidatePersistenceRecord}
    (stored : s.candidateRecords.get? candidateId = some record) :
    s.NotSuppressed candidateId ↔ record.val.candidate.val.reviewPosture ≠ .suppressed := by
  constructor
  · intro none_
    exact none_ record stored
  · intro posture other found
    rw [stored] at found
    cases found
    exact posture

/-- An accepted reconciliation stores the candidate that it returned. -/
theorem persist_reconciles {q : PersistRequest} {m : AcceptedMutation}
    (run : s.persistPlan q = .ok (.accept m)) :
    m.candidateId = q.candidate.val.candidateId ∧
    ∀ existing, s.candidateRecords.get? q.candidate.val.candidateId = some existing →
      ∃ reconciliation, reconcileCandidate existing.val.candidate q.candidate
          existing.val.evidenceHash
          (evidenceHashForSourceRefs q.candidate.val.evidencePacket.val.sourceRefs)
          q.occurredAtUtc = .ok reconciliation ∧
        reconciliation.candidate = some m.record.val.candidate := by
  simp only [IdeaRepository.persistPlan] at run
  obtain ⟨_, _, run⟩ := Except.seq_returns.mp run
  obtain ⟨scope, _, run⟩ := Except.seq_returns.mp run
  obtain ⟨_, _, run⟩ := Except.seq_returns.mp run
  obtain ⟨admission, _, run⟩ := Except.seq_returns.mp run
  cases admission with
  | answered result => cases run
  | fresh storageKey idempotencyRecord =>
      cases found : s.candidateRecords.get? q.candidate.val.candidateId with
      | none =>
          simp only [found, IdeaRepository.createPlan] at run
          obtain ⟨auditEvent, _, run⟩ := Except.seq_returns.mp run
          obtain ⟨entry, _, run⟩ := Except.seq_returns.mp run
          obtain ⟨record, _, run⟩ := Except.seq_returns.mp run
          cases run
          refine ⟨rfl, ?_⟩
          rintro existing ⟨⟩
      | some existing =>
          simp only [found, IdeaRepository.reconcilePlan] at run
          obtain ⟨reconciliation, reconciled, run⟩ := Except.seq_returns.mp run
          split at run
          · cases run
          split at run
          · cases run
          split at run
          · cases run
          rename_i next held
          simp only [IdeaRepository.reconciledPlan] at run
          obtain ⟨eventType, _, run⟩ := Except.seq_returns.mp run
          obtain ⟨auditEvent, _, run⟩ := Except.seq_returns.mp run
          obtain ⟨entry, _, run⟩ := Except.seq_returns.mp run
          obtain ⟨record, made, run⟩ := Except.seq_returns.mp run
          cases run
          refine ⟨rfl, ?_⟩
          rintro other ⟨⟩
          rw [Checked.make_eq_ok.mp made]
          exact ⟨reconciliation, reconciled, held⟩

/-- The candidate of the record that an accepted mutation stores. -/
theorem write_suppression (consistent : s.SuppressionConsistent) {c : MutationCall}
    (governed : c.Governed) {m : AcceptedMutation} (planned : c.plan s = .ok (.accept m)) :
    m.record.val.candidate.SuppressionConsistent ↔ s.KeepsSuppression (.mutate c) := by
  obtain ⟨writes, _⟩ := mutation_writes planned
  cases writes with
  | created q entry auditEvent named absent _ record _ =>
      rw [named] at absent
      simp only [IdeaRepository.KeepsSuppression, absent, record]
  | reconciled q old candidate entry auditEvent stored _ _ record _ =>
      obtain ⟨own, reconciles⟩ := persist_reconciles planned
      rw [own] at stored
      obtain ⟨reconciliation, reconciled, held⟩ := reconciles old stored
      simp only [IdeaRepository.KeepsSuppression, stored]
      exact reconcileCandidate_consistent reconciled held (consistent _ _ stored)
  | transitioned q old attributes stored _ moved _ =>
      obtain ⟨candidate, entry, transition, record⟩ := (transitionRecord_moved moved).record
      rw [lifecycle_target planned] at stored
      rw [record]
      simp only [IdeaRepository.KeepsSuppression, notSuppressed_iff stored]
      exact transitionCandidate_consistent transition (consistent _ _ stored)
  | reviewed q old history named stored _ source record _ =>
      obtain ⟨candidate, command, acceptedAtUtc, receipt, policy, run⟩ := governed
      have reviewed := applyReviewAction_recorded run
      have same : old.val.candidate.equals candidate = true := by
        rw [← reviewed.sourceCandidate]
        exact source
      have before := (IdeaCandidate.suppressionConsistent_of_equals same).mp
        (consistent _ _ stored)
      rw [named] at stored
      rw [record]
      simp only [IdeaRepository.KeepsSuppression, notSuppressed_iff stored, reviewed.action,
        IdeaCandidate.reviewPosture_of_equals same]
      exact candidateAfterReview_consistent reviewed.updated before
  | feedback q old _ stored _ record _ | outcome q old _ stored _ _ record _
  | packed q old _ stored record _ =>
      rw [record]
      exact iff_of_true (consistent _ _ stored) trivial
  | converted q old history grant _ stored source _ _ record _ =>
      obtain ⟨candidate, command, acceptedAtUtc, carried, run⟩ := governed
      have approved := (requestConversionIntent_returns run).2.2.1
      have same : old.val.candidate.equals candidate = true := by
        rw [← (requestConversionIntent_returns run).1]
        exact source
      have before := (IdeaCandidate.suppressionConsistent_of_equals same).mp
        (consistent _ _ stored)
      have was : candidate.val.reviewPosture ≠ .suppressed := by
        rw [IdeaCandidate.posture_of_approved approved]
        decide
      rw [record]
      refine iff_of_true ?_ trivial
      exact (transitionCandidate_consistent (requestConversionIntent_moves run) before).mpr
        fun _ => was

/-- A call leaves the records as they are, or stores one whose candidate is
consistent exactly under the condition. -/
theorem step_stores {s : IdeaRepository} (keyed : s.Keyed) (consistent : s.SuppressionConsistent)
    {c : RepositoryCall} (governed : c.Governed) :
    (s.step c).candidateRecords = s.candidateRecords ∨
    ∃ id record, (s.step c).candidateRecords = s.candidateRecords.set id record ∧
      (record.val.candidate.SuppressionConsistent ↔ s.KeepsSuppression c) := by
  have after := records_after_step keyed c
  generalize (s.step c).candidateRecords = records at after ⊢
  cases after with
  | same => exact Or.inl rfl
  | written call isCall m planned =>
      subst isCall
      exact Or.inr ⟨_, _, rfl, write_suppression consistent governed planned⟩
  | moved q isCall record updated auditEvent stored moved =>
      subst isCall
      obtain ⟨candidate, entry, transition, fields⟩ := (transitionRecord_moved moved).record
      refine Or.inr ⟨_, _, rfl, ?_⟩
      rw [fields]
      simp only [IdeaRepository.KeepsSuppression, notSuppressed_iff stored]
      exact transitionCandidate_consistent transition (consistent _ _ stored)
  | explained q isCall lineage record updated accepted =>
      refine Or.inr ⟨_, _, rfl, ?_⟩
      rw [accepted.fields]
      have free : s.KeepsSuppression c := by
        rcases isCall with rfl | ⟨key, payload, rfl⟩ <;> trivial
      exact iff_of_true (consistent _ _ accepted.stored) free

end

/-! ## Over a run -/

/-- The condition is enough for a call, and a call that stores a record needs it. -/
theorem suppression_after_step {s : IdeaRepository} (keyed : s.Keyed)
    (consistent : s.SuppressionConsistent) {c : RepositoryCall} (governed : c.Governed) :
    (s.KeepsSuppression c → (s.step c).SuppressionConsistent) ∧
    ((s.step c).candidateRecords ≠ s.candidateRecords →
      ((s.step c).SuppressionConsistent ↔ s.KeepsSuppression c)) := by
  rcases step_stores keyed consistent governed with same | ⟨id, record, stores, decides⟩
  · refine ⟨fun _ => ?_, fun changed => absurd same changed⟩
    rw [IdeaRepository.SuppressionConsistent, same]
    exact consistent
  · have whole : (s.step c).SuppressionConsistent ↔ record.val.candidate.SuppressionConsistent := by
      rw [IdeaRepository.SuppressionConsistent, stores]
      constructor
      · intro all
        exact all id record (Dict.get?_set_self _ _ _)
      · intro own
        exact Dict.forall_get?_set consistent own
    rw [whole, decides]
    exact ⟨fun met => met, fun _ => Iff.rfl⟩

theorem suppressionConsistent_empty : IdeaRepository.empty.SuppressionConsistent := by
  intro id record stored
  cases stored

def sampleSuppressReview (action : ReviewAction) (reviewId : String) (candidate : IdeaCandidate)
    (time : Int) : Except PyError ReviewActionResult := do
  let command ← Checked.make ReviewDecisionCommandFields.checks
    { reviewId := reviewId, action := action, actor := sampleOperator
      reasonCodes := [.highCashRatio], decidedAtUtc := .utc time
      expectedCandidateEvidence := CandidateEvidenceIdentity.fromCandidate candidate
      reviewChannel := .operator, presentationReceiptId := none
      suppressionReason := if action = .suppress then some .manualSuppression else none }
  applyReviewAction candidate command (.utc time) none sampleReviewPolicy

def sampleSuppressed : Except PyError ReviewActionResult :=
  sampleSuppressReview .suppress "review-1" (sampleCandidate false) 20

def sampleEscalated : Except PyError ReviewActionResult := do
  let suppressed ← sampleSuppressed
  sampleSuppressReview .escalateToPm "review-2" suppressed.candidate 30

/-- A candidate is persisted, suppressed and escalated. -/
def sampleEscalation : List RepositoryCall :=
  samplePersist "persist-1" false 10 ::
    (recording "review-1" .recordReviewAction sampleSuppressed ++
      recording "review-2" .recordReviewAction sampleEscalated)

theorem sampleEscalation_governed : ∀ c ∈ sampleEscalation, c.Governed := by
  refine List.forall_mem_cons.mpr ⟨trivial, List.forall_mem_append.mpr ⟨?_, ?_⟩⟩
  · refine recording_governed fun q run => ?_
    simp only [sampleSuppressed, sampleSuppressReview] at run
    obtain ⟨command, _, run⟩ := Except.seq_returns.mp run
    exact ⟨_, _, _, _, _, run⟩
  · refine recording_governed fun q run => ?_
    simp only [sampleEscalated, sampleSuppressReview] at run
    obtain ⟨suppressed, _, run⟩ := Except.seq_returns.mp run
    obtain ⟨command, _, run⟩ := Except.seq_returns.mp run
    exact ⟨_, _, _, _, _, run⟩

end

section Sample

local instance suppressionSha256 : Sha256 := Sha256.zeros

set_option maxRecDepth 10000 in
theorem sampleEscalation_stored :
    ((IdeaRepository.empty.run sampleEscalation).candidateRecords.get? "idea-1").any
      (fun record => !decide record.val.candidate.SuppressionConsistent) = true := by
  decide +kernel

end Sample

end LotusIdea

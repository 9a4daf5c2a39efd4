import LotusIdea.Domain.ReviewStates
import LotusIdea.Repository.RevokedAuthority
import LotusIdea.Repository.Writes

/-!
# The posture that a review leaves

An accepted review action tells its posture four times: in the decision, in the
audit event, in the outbox event and in the stored candidate.  The decision takes
it from the action alone, the candidate from the action and from what it was.
-/

set_option autoImplicit false

namespace LotusIdea

open IdeaRepository (ResultRequest)

section
variable [Sha256]

/-! ## What an accepted review writes -/

/-- The record and the outbox event that a review leaves. -/
structure ReviewStored (s next : IdeaRepository) (result : ReviewActionResult)
    (record : CandidatePersistenceRecord) (event : OutboxEventRecord) : Prop where
  stored : next.candidateRecords.get? result.decision.val.candidateId = some record
  decided : record.val.reviewDecisions.getLast? = some result.decision
  audited : record.val.auditEvents.getLast? = some result.auditEvent
  emitted : next.outbox.events = s.outbox.events.set event.val.eventId event
  aggregate : event.val.aggregateId = result.decision.val.candidateId

/-- The four tellings of the posture are one. -/
def PosturesAgree (result : ReviewActionResult) (record : CandidatePersistenceRecord)
    (event : OutboxEventRecord) : Prop :=
  let posture := result.decision.val.resultingPosture
  result.auditEvent.attribute? "review_posture" = some posture.value ∧
    event.val.payload.lookup "resulting_posture" = some (.text posture.value) ∧
    record.val.candidate.val.reviewPosture = posture

theorem buildCandidateOutboxEvent_fields {eventType aggregateId : String}
    {occurredAtUtc : DateTime} {payload : List (String × PayloadValue)} {idempotencyKey : String}
    {lineage : Option EventLineageContext} {event : OutboxEventRecord}
    (run : buildCandidateOutboxEvent eventType aggregateId occurredAtUtc payload idempotencyKey
      lineage = .ok event) : event.val.payload = payload ∧ event.val.aggregateId = aggregateId := by
  simp only [buildCandidateOutboxEvent] at run
  obtain ⟨_, _, run⟩ := Except.seq_returns.mp run
  obtain ⟨fingerprint, _, run⟩ := Except.seq_returns.mp run
  obtain ⟨chosen, _, run⟩ := Except.seq_returns.mp run
  simp only [OutboxEventRecord.create] at run
  obtain ⟨_, _, run⟩ := Except.seq_returns.mp run
  obtain ⟨settled, _, run⟩ := Except.seq_returns.mp run
  rw [Checked.make_eq_ok.mp run]
  exact ⟨rfl, rfl⟩

section Plan
variable {s : IdeaRepository} {q : ResultRequest ReviewActionResult} {m : AcceptedMutation}

/-- An accepted review stores its record under the candidate's own id, and its
event tells the posture of the decision. -/
theorem review_plan_fields (run : s.reviewPlan q = .ok (.accept m)) :
    m.recordId = q.result.decision.val.candidateId ∧
      m.event.aggregateId = q.result.decision.val.candidateId ∧
      m.event.payload.lookup "resulting_posture" =
        some (.text q.result.decision.val.resultingPosture.value) := by
  simp only [IdeaRepository.reviewPlan] at run
  obtain ⟨_, passed, run⟩ := Except.seq_returns.mp run
  have checks := validate_eq_ok.mp passed
  simp only [firstFailure_cons, requireText_passes] at checks
  obtain ⟨record, scope, _, _, _, run⟩ := forRecord_accepts checks.1 run
  split at run
  · rename_i seen
    cases run
    exact (identityPlan_not_accept seen).elim
  simp only [IdeaRepository.reviewedPlan] at run
  obtain ⟨_, _, run⟩ := Except.seq_returns.mp run
  obtain ⟨history, _, run⟩ := Except.seq_returns.mp run
  obtain ⟨updated, _, run⟩ := Except.seq_returns.mp run
  cases run
  exact ⟨rfl, rfl, rfl⟩

end Plan

theorem recordReviewAction_stored {s : IdeaRepository} {q : ResultRequest ReviewActionResult}
    {answer : PersistenceResult} (accepted : (s.recordReviewAction q).1 = .ok answer)
    (accepting : answer.decision = .accepted) : ∃ record event,
    ReviewStored s (s.recordReviewAction q).2 q.result record event ∧
      record.val.candidate = q.result.candidate ∧
      event.val.payload.lookup "resulting_posture" =
        some (.text q.result.decision.val.resultingPosture.value) := by
  have effect := mutate_effect s (.recordReviewAction q)
  have same : s.mutate (.recordReviewAction q) = s.recordReviewAction q := rfl
  rw [same] at effect
  cases run : s.recordReviewAction q with
  | mk reply next =>
      rw [run] at effect accepted
      cases effect with
      | refused error raised => cases accepted
      | answered result refuses =>
          cases accepted
          rw [accepting] at refuses
          cases refuses
      | bound result _ _ _ refuses =>
          cases accepted
          rw [accepting] at refuses
          cases refuses
      | cut m _ _ error unbuilt => cases accepted
      | written m planned _ event built =>
          have planned : s.reviewPlan q = .ok (.accept m) := planned
          obtain ⟨payload, aggregate⟩ := buildCandidateOutboxEvent_fields built
          obtain ⟨recordId, own, posture⟩ := review_plan_fields planned
          cases (review_writes planned).1 with
          | reviewed _ old history _ _ _ _ fields _ =>
              refine ⟨m.record, event, ⟨?_, ?_, ?_, rfl, aggregate.trans own⟩, ?_, ?_⟩
              · rw [← recordId]
                exact Dict.get?_set_self _ _ _
              · rw [fields]
                exact List.getLast?_concat
              · rw [fields]
                exact List.getLast?_concat
              · rw [fields]
              · rw [payload, posture]

/-! ## When the tellings agree -/

/-- In every run, an accepted review action tells one posture throughout exactly
when it is no snooze, or the candidate was waiting for its advisor: a snooze leaves
the posture of the candidate as it is, and its decision always names the
advisor's. -/
theorem review_postures_agree_iff (calls : List RepositoryCall)
    (q : ResultRequest ReviewActionResult) (candidate : IdeaCandidate)
    (command : ReviewDecisionCommand) (acceptedAtUtc : DateTime)
    (receipt : Option CandidatePresentationReceipt) (policy : ReviewActionPolicy)
    (governed : applyReviewAction candidate command acceptedAtUtc receipt policy = .ok q.result)
    (answer : PersistenceResult)
    (accepted : ((IdeaRepository.empty.run calls).recordReviewAction q).1 = .ok answer)
    (accepting : answer.decision = .accepted) : ∃ record event,
    ReviewStored (IdeaRepository.empty.run calls)
      ((IdeaRepository.empty.run calls).recordReviewAction q).2 q.result record event ∧
    (PosturesAgree q.result record event ↔
      (command.val.action = .snooze →
        candidate.val.reviewPosture = .advisorReviewRequired)) := by
  obtain ⟨record, event, stored, moved, told⟩ := recordReviewAction_stored accepted accepting
  have recorded := applyReviewAction_recorded governed
  obtain ⟨posture, _⟩ := candidateAfterReview_reviewState recorded.updated
  have audited : q.result.auditEvent.attribute? "review_posture" =
      some q.result.candidate.val.reviewPosture.value := by
    rw [AuditEvent.attribute?, Checked.make_eq_ok.mp recorded.audited]
    rfl
  refine ⟨record, event, stored, ?_⟩
  simp only [PosturesAgree, told, audited, moved, posture, recorded.resultingPosture, true_and,
    Option.some.injEq]
  by_cases snoozes : command.val.action = .snooze
  · simp only [snoozes, if_true, true_imp_iff, reviewActionPostures]
    exact ⟨And.right, fun same => ⟨by rw [same], same⟩⟩
  · simp only [snoozes, if_false, true_and, false_imp_iff]

end

/-! ## A snooze of a candidate that waits for someone else -/

/-- A candidate that waits for its advisor, or for the portfolio manager. -/
def sampleWaiting (advisor : Bool) : IdeaCandidate where
  val :=
    { (sampleCandidate false).val with
      reviewPosture := if advisor then .advisorReviewRequired else .pmReviewRequired }
  valid := by cases advisor <;> decide +kernel

section
variable [Sha256]

def sampleWaitingStored (advisor : Bool) : List RepositoryCall :=
  [.mutate (.persistCandidate
    { samplePersistRequest "persist-1" false 10 with candidate := sampleWaiting advisor })]

def sampleSnoozeCommand (advisor : Bool) : Except PyError ReviewDecisionCommand :=
  Checked.make ReviewDecisionCommandFields.checks
    { reviewId := "review-1", action := .snooze, actor := sampleOperator
      reasonCodes := [.highCashRatio], decidedAtUtc := .utc 20
      expectedCandidateEvidence := CandidateEvidenceIdentity.fromCandidate (sampleWaiting advisor)
      reviewChannel := .operator, presentationReceiptId := none, snoozedUntilUtc := some (.utc 90) }

def sampleReviewRequest (result : ReviewActionResult) : ResultRequest ReviewActionResult where
  idempotencyKey := "review-1"
  payload := .obj []
  eventLineage := some sampleLineage
  result := result

/-- The snooze is accepted and leaves a candidate of whose posture `holds`. -/
def sampleSnoozed (advisor : Bool) (holds : ReviewPosture → ReviewPosture → Bool) : Bool :=
  match sampleSnoozeCommand advisor with
  | .error _ => false
  | .ok command =>
      match applyReviewAction (sampleWaiting advisor) command (.utc 20) none
          sampleReviewPolicy with
      | .error _ => false
      | .ok result =>
          match (IdeaRepository.empty.run (sampleWaitingStored advisor)).recordReviewAction
              (sampleReviewRequest result) with
          | (.error _, _) => false
          | (.ok answer, next) =>
              decide (answer.decision = .accepted) && decide (command.val.action = .snooze) &&
                (next.candidateRecords.get? result.decision.val.candidateId).any fun record =>
                  holds record.val.candidate.val.reviewPosture result.decision.val.resultingPosture

/-- What the check of the sample says. -/
structure SnoozeSample (advisor : Bool) (holds : ReviewPosture → ReviewPosture → Bool)
    (command : ReviewDecisionCommand) (result : ReviewActionResult)
    (answer : PersistenceResult) : Prop where
  governed : applyReviewAction (sampleWaiting advisor) command (.utc 20) none
    sampleReviewPolicy = .ok result
  accepted : ((IdeaRepository.empty.run (sampleWaitingStored advisor)).recordReviewAction
    (sampleReviewRequest result)).1 = .ok answer
  accepting : answer.decision = .accepted
  snoozes : command.val.action = .snooze
  left : ∃ record, ((IdeaRepository.empty.run (sampleWaitingStored advisor)).recordReviewAction
      (sampleReviewRequest result)).2.candidateRecords.get? result.decision.val.candidateId =
        some record ∧
    holds record.val.candidate.val.reviewPosture result.decision.val.resultingPosture = true

theorem sampleSnoozed_reads {advisor : Bool} {holds : ReviewPosture → ReviewPosture → Bool}
    (checked : sampleSnoozed advisor holds = true) :
    ∃ command result answer, SnoozeSample advisor holds command result answer := by
  unfold sampleSnoozed at checked
  split at checked
  · cases checked
  rename_i command made
  split at checked
  · cases checked
  rename_i result governed
  split at checked
  · cases checked
  rename_i answer next run
  simp only [Bool.and_eq_true, decide_eq_true_eq] at checked
  obtain ⟨record, stored, left⟩ := (Option.any_eq_true _ _).mp checked.2
  refine ⟨command, result, answer, governed, ?_, checked.1.1, checked.1.2, record, ?_, left⟩
  · rw [run]
  · rw [run]
    exact stored

end

section Sample

local instance postureSha256 : Sha256 := Sha256.zeros

set_option maxRecDepth 10000 in
theorem sampleSnoozed_disagrees : sampleSnoozed false (fun stored told => stored ≠ told) = true := by
  decide +kernel

set_option maxRecDepth 10000 in
theorem sampleSnoozed_agrees : sampleSnoozed true (fun stored told => stored = told) = true := by
  decide +kernel

/-- The advisor's snooze tells one posture throughout. -/
theorem review_postures_agree_iff_sample : ∃ command result record event,
    applyReviewAction (sampleWaiting true) command (.utc 20) none sampleReviewPolicy = .ok result ∧
    ReviewStored (IdeaRepository.empty.run (sampleWaitingStored true))
      ((IdeaRepository.empty.run (sampleWaitingStored true)).recordReviewAction
        (sampleReviewRequest result)).2 result record event ∧
    PosturesAgree result record event := by
  obtain ⟨command, result, answer, sample⟩ := sampleSnoozed_reads sampleSnoozed_agrees
  obtain ⟨record, event, stored, agree⟩ := review_postures_agree_iff (sampleWaitingStored true)
    (sampleReviewRequest result) (sampleWaiting true) command (.utc 20) none sampleReviewPolicy
    sample.governed answer sample.accepted sample.accepting
  exact ⟨command, result, record, event, sample.governed, stored, agree.mpr fun _ => rfl⟩

/-- A snooze of a candidate that waits for the portfolio manager is accepted, and
its decision names the advisor's posture while the candidate keeps its own. -/
theorem snooze_posture_disagrees : ∃ command result answer,
    applyReviewAction (sampleWaiting false) command (.utc 20) none sampleReviewPolicy =
      .ok result ∧
    ((IdeaRepository.empty.run (sampleWaitingStored false)).recordReviewAction
      (sampleReviewRequest result)).1 = .ok answer ∧
    answer.decision = .accepted ∧
    ∃ record, ((IdeaRepository.empty.run (sampleWaitingStored false)).recordReviewAction
        (sampleReviewRequest result)).2.candidateRecords.get? result.decision.val.candidateId =
          some record ∧
      ∀ event, ¬ PosturesAgree result record event := by
  obtain ⟨command, result, answer, sample⟩ := sampleSnoozed_reads sampleSnoozed_disagrees
  obtain ⟨record, stored, other⟩ := sample.left
  refine ⟨command, result, answer, sample.governed, sample.accepted, sample.accepting, record,
    stored, ?_⟩
  rintro event ⟨_, _, same⟩
  exact (of_decide_eq_true other) same

end Sample

end LotusIdea

import LotusIdea.Application.WorkflowRuns
import LotusIdea.Repository.RevokedAuthority

/-!
# Entitlement before replay

A workflow that refuses its caller must do so before it looks whether the command
was answered earlier.  Five of the six do; feedback asks the repository first.
-/

set_option autoImplicit false

namespace LotusIdea

open IdeaRepository (PrecheckRequest)

section
variable [Sha256]

/-- The answer of a workflow: its repository disposition, or what it raised. -/
def IdeaRepository.workflowAnswer (s : IdeaRepository) :
    WorkflowCall → Option (Except PyError PersistenceDecision)
  | .reviewAction c policy =>
      some ((s.applyReviewActionToRepository c policy).1.map fun r => r.persistence.decision)
  | .feedback c policy =>
      some ((s.recordFeedbackToRepository c policy).1.map fun r => r.persistence.decision)
  | .lifecycle c =>
      some ((s.applyCandidateLifecycleTransitionToRepository c).1.map fun r =>
        r.persistence.decision)
  | .conversionIntent c =>
      some ((s.requestConversionIntentToRepository c).1.map fun r => r.persistence.decision)
  | .conversionOutcome c =>
      some ((s.recordConversionOutcomeToRepository c).1.map fun r => r.persistence.decision)
  | .reportEvidencePack c =>
      some ((s.requestReportEvidencePackToRepository c).1.map fun r => r.persistence.decision)
  | .repository _ => none

namespace WorkflowCall

/-- The stored record that a command is about. -/
def target (s : IdeaRepository) : WorkflowCall → Option CandidatePersistenceRecord
  | .reviewAction c _ => s.candidateRecords.get? c.val.candidateId
  | .feedback c _ => s.candidateRecords.get? c.val.candidateId
  | .lifecycle c => s.candidateRecords.get? c.val.candidateId
  | .conversionIntent c => s.candidateRecords.get? c.val.candidateId
  | .conversionOutcome c =>
      (s.conversionIntentById c.val.conversionIntentId).bind fun _ =>
        s.candidateRecordForConversionIntent c.val.conversionIntentId
  | .reportEvidencePack c =>
      (s.conversionIntentById c.val.conversionIntentId).bind fun _ =>
        s.candidateRecordForConversionIntent c.val.conversionIntentId
  | .repository _ => none

/-- The caller's role and scope cover a candidate with this access scope. -/
def covers (accessScope : Option ReviewAccessScope) : WorkflowCall → Bool
  | .reviewAction c policy =>
      let actor := c.val.review.val.actor
      accessScope.any actor.canAccess && policy.allows actor c.val.review.val.action &&
        !((c.val.review.val.reviewChannel = .workbench && actor.val.role ≠ .advisor) ||
          (c.val.review.val.reviewChannel = .operator && actor.val.role ≠ .operator))
  | .feedback c policy =>
      let actor := c.val.feedback.val.actor
      accessScope.any actor.canAccess && policy.allows actor .noAction
  | .lifecycle c => c.val.accessScopeFilter.covers accessScope
  | .conversionIntent c => c.val.accessScopeFilter.any fun asked => asked.covers accessScope
  | .conversionOutcome c => c.val.accessScopeFilter.any fun asked => asked.covers accessScope
  | .reportEvidencePack c => c.val.accessScopeFilter.covers accessScope
  | .repository _ => true

/-- The error with which a command is refused that does not cover the candidate. -/
def entitlementError (candidateId : String) : WorkflowCall → PyError
  | .reviewAction _ _ => .reviewEntitlementDenied candidateId
  | .feedback _ _ => .reviewEntitlementDenied candidateId
  | .lifecycle _ => .candidateLifecycleAccessScopeDenied
  | .conversionIntent _ => .conversionAccessScopeDenied
  | .conversionOutcome _ => .conversionAccessScopeDenied
  | .reportEvidencePack _ => .reportEvidenceAccessScopeDenied
  | .repository _ => .assertionError

/-- The command is about a stored candidate that its caller does not cover. -/
structure Uncovered (s : IdeaRepository) (w : WorkflowCall) (record : CandidatePersistenceRecord) :
    Prop where
  target : w.target s = some record
  denied : w.covers record.val.candidate.val.accessScope = false

/-- An uncovered command is refused with the entitlement error and writes nothing. -/
def RefusedUncovered (s : IdeaRepository) (w : WorkflowCall) : Prop :=
  ∀ record, w.Uncovered s record →
    s.workflowAnswer w = some (.error (w.entitlementError record.val.candidate.val.candidateId)) ∧
      s.workflowStep w = s

/-- Feedback by an uncovered caller that the store has not seen: the candidate has a
tenant, which has not used the key, and no feedback event has the id. -/
def UnseenFeedback (s : IdeaRepository) : WorkflowCall → Prop
  | .feedback c policy => ∀ record, (WorkflowCall.feedback c policy).Uncovered s record →
      (∃ scope, record.val.candidate.val.accessScope = some scope ∧
        s.idempotencyRecords.get? (tenantStorageKey scope.val.tenantId c.val.idempotencyKey) =
          none) ∧
      s.reviewIdentityRecord
        (feedbackMutationIdentityFromCommand record.val.candidate c.val.feedback) = none
  | _ => True

end WorkflowCall

open WorkflowCall

/-! ## The workflows that authorise first -/

omit [Sha256] in
theorem validate_fails {failed : Bool} {error : PyError} (fails : failed = true) :
    validate [(failed, error)] = .error error := by
  subst fails
  rfl

omit [Sha256] in
/-- Checks that all raise one error raise it when one of them fails. -/
theorem validate_same_error {checks : List (Bool × PyError)} {error : PyError}
    (same : ∀ check ∈ checks, check.2 = error) (fails : firstFailure checks ≠ none) :
    validate checks = .error error := by
  unfold validate
  cases raised : firstFailure checks with
  | none => exact absurd raised fails
  | some own => rw [← same _ (firstFailure_mem raised)]

theorem reviewActorChecks_refuse {c : ApplyReviewActionToRepositoryCommand}
    {policy : ReviewActionPolicy} {candidate : IdeaCandidate}
    (denied : (WorkflowCall.reviewAction c policy).covers candidate.val.accessScope = false) :
    validate (reviewActorChecks candidate c.val.review policy) =
      .error (.reviewEntitlementDenied candidate.val.candidateId) := by
  apply validate_same_error
  · intro check member
    simp only [reviewActorChecks, actorScopeCheck, List.mem_cons, List.not_mem_nil,
      or_false] at member
    rcases member with rfl | rfl <;> rfl
  · intro passed
    simp only [reviewActorChecks, actorScopeCheck, firstFailure_cons, firstFailure_nil, and_true,
      Bool.not_eq_false'] at passed
    simp only [covers, passed.1, passed.2, Bool.not_false, Bool.and_self, reduceCtorEq] at denied

omit [Sha256] in
theorem accessScopeCheck_refuse (filter : Option QueueAccessScopeFilter) (error : PyError)
    {record : CandidatePersistenceRecord}
    (denied : (filter.any fun asked =>
      asked.covers record.val.candidate.val.accessScope) = false) :
    validate [accessScopeCheck filter record error] = .error error := by
  apply validate_fails
  rw [denied]
  rfl

theorem review_refused {s : IdeaRepository} {c : ApplyReviewActionToRepositoryCommand}
    {policy : ReviewActionPolicy} : RefusedUncovered s (.reviewAction c policy) := by
  intro record uncovered
  have stored : s.candidateRecords.get? c.val.candidateId = some record := uncovered.target
  have refused := reviewActorChecks_refuse uncovered.denied
  simp only [IdeaRepository.workflowAnswer, IdeaRepository.workflowStep,
    IdeaRepository.applyReviewActionToRepository, stored, refused]
  exact ⟨rfl, trivial⟩

theorem lifecycle_refused {s : IdeaRepository} {c : ApplyCandidateLifecycleTransitionCommand} :
    RefusedUncovered s (.lifecycle c) := by
  intro record uncovered
  have stored : s.candidateRecords.get? c.val.candidateId = some record := uncovered.target
  have refused := accessScopeCheck_refuse (some c.val.accessScopeFilter)
    .candidateLifecycleAccessScopeDenied uncovered.denied
  simp only [IdeaRepository.workflowAnswer, IdeaRepository.workflowStep,
    IdeaRepository.applyCandidateLifecycleTransitionToRepository, stored, refused]
  exact ⟨rfl, trivial⟩

theorem conversionIntent_refused {s : IdeaRepository}
    {c : RequestConversionIntentToRepositoryCommand} :
    RefusedUncovered s (.conversionIntent c) := by
  intro record uncovered
  have stored : s.candidateRecords.get? c.val.candidateId = some record := uncovered.target
  have refused := accessScopeCheck_refuse c.val.accessScopeFilter
    .conversionAccessScopeDenied uncovered.denied
  simp only [IdeaRepository.workflowAnswer, IdeaRepository.workflowStep,
    IdeaRepository.requestConversionIntentToRepository, stored, refused]
  exact ⟨rfl, trivial⟩

theorem conversionOutcome_refused {s : IdeaRepository}
    {c : RecordConversionOutcomeToRepositoryCommand} :
    RefusedUncovered s (.conversionOutcome c) := by
  intro record uncovered
  obtain ⟨intent, found, holder⟩ := Option.bind_eq_some_iff.mp uncovered.target
  have refused := accessScopeCheck_refuse c.val.accessScopeFilter
    .conversionAccessScopeDenied uncovered.denied
  simp only [IdeaRepository.workflowAnswer, IdeaRepository.workflowStep,
    IdeaRepository.recordConversionOutcomeToRepository, found, holder, refused]
  exact ⟨rfl, trivial⟩

theorem reportEvidencePack_refused {s : IdeaRepository}
    {c : RequestReportEvidencePackToRepositoryCommand} :
    RefusedUncovered s (.reportEvidencePack c) := by
  intro record uncovered
  obtain ⟨intent, found, holder⟩ := Option.bind_eq_some_iff.mp uncovered.target
  have refused := accessScopeCheck_refuse (some c.val.accessScopeFilter)
    .reportEvidenceAccessScopeDenied uncovered.denied
  simp only [IdeaRepository.workflowAnswer, IdeaRepository.workflowStep,
    IdeaRepository.requestReportEvidencePackToRepository, found, holder, refused]
  exact ⟨rfl, trivial⟩

/-! ## Feedback -/

/-- The domain refuses feedback of an uncovered caller. -/
theorem recordFeedback_refuses {c : RecordFeedbackToRepositoryCommand}
    {policy : ReviewActionPolicy} {candidate : IdeaCandidate}
    (denied : (WorkflowCall.feedback c policy).covers candidate.val.accessScope = false) :
    recordFeedback candidate c.val.feedback c.val.acceptedAtUtc policy =
      .error (.reviewEntitlementDenied candidate.val.candidateId) := by
  have aware : (requireAware c.val.acceptedAtUtc "accepted_at_utc").1 = false := by
    have valid := c.valid
    simp only [RecordFeedbackToRepositoryCommandFields.checks, firstFailure_append,
      requireAwareUtc, firstFailure_cons] at valid
    exact valid.2.1
  have scope : (actorScopeCheck candidate.val.candidateId .noAction c.val.feedback.val.actor
      candidate.val.accessScope policy).1 = true := by
    simp only [actorScopeCheck, Bool.not_eq_true']
    exact denied
  have refused : validate ([requireAware c.val.acceptedAtUtc "accepted_at_utc",
      actorScopeCheck candidate.val.candidateId .noAction c.val.feedback.val.actor
        candidate.val.accessScope policy] ++
      observedTimeChecks c.val.feedback.val.recordedAtUtc c.val.acceptedAtUtc
        feedbackTimePolicy) = .error (.reviewEntitlementDenied candidate.val.candidateId) := by
    simp only [validate, List.cons_append, firstFailure, aware, scope, Bool.false_eq_true, if_false,
      if_true]
    rfl
  simp only [recordFeedback, refused]
  rfl

omit [Sha256] in
theorem requireSinglePersistedAction_raises {α : Type} {actions : List α} {error : PyError}
    (raised : requireSinglePersistedAction actions = .error error) :
    ∃ message, error = .persistedActionEvidenceUnavailable message := by
  unfold requireSinglePersistedAction at raised
  split at raised
  · cases raised
  · cases raised
    exact ⟨_, rfl⟩

omit [Sha256] in
/-- The persisted action is reported, or said to be unavailable. -/
theorem persistedAction_raises {α : Type} {persistence : PersistenceResult}
    {candidateId : Option String} {missing : String}
    {found : CandidatePersistenceRecord → Except PyError α} {error : PyError}
    (inner : ∀ record error, found record = .error error →
      ∃ message, error = .persistedActionEvidenceUnavailable message)
    (raised : persistedAction persistence candidateId missing found = .error error) :
    ∃ message, error = .persistedActionEvidenceUnavailable message := by
  unfold persistedAction at raised
  split at raised
  · rcases Except.seq_raises.mp raised with absent | ⟨record, _, raised⟩
    · unfold successfulRecord at absent
      split at absent
      · cases absent
        exact ⟨_, rfl⟩
      · split at absent
        · cases absent
        · cases absent
          exact ⟨_, rfl⟩
    · rcases Except.seq_raises.mp raised with missed | ⟨action, _, raised⟩
      · exact inner record error missed
      · cases raised
  · cases raised

theorem feedbackWorkflowResult_not_entitlement {c : RecordFeedbackToRepositoryCommand}
    {persistence : PersistenceResult} {candidateId : String} :
    IdeaRepository.feedbackWorkflowResult c persistence ≠ .error (.reviewEntitlementDenied candidateId) := by
  intro raised
  rcases Except.seq_raises.mp raised with lost | ⟨event, _, raised⟩
  · obtain ⟨message, same⟩ := persistedAction_raises
      (fun record error missed => requireSinglePersistedAction_raises missed) lost
    cases same
  · cases raised

theorem feedback_refused {s : IdeaRepository} {c : RecordFeedbackToRepositoryCommand}
    {policy : ReviewActionPolicy} :
    RefusedUncovered s (.feedback c policy) ↔ UnseenFeedback s (.feedback c policy) := by
  have filled : PyText.isBlank c.val.idempotencyKey = false := by
    have valid := c.valid
    simp only [RecordFeedbackToRepositoryCommandFields.checks, firstFailure_append,
      firstFailure_cons, requireText_passes] at valid
    exact valid.1.2.1
  have each : ∀ record, (WorkflowCall.feedback c policy).Uncovered s record →
      ((s.workflowAnswer (.feedback c policy) =
          some (.error (.reviewEntitlementDenied record.val.candidate.val.candidateId)) ∧
        s.workflowStep (.feedback c policy) = s) ↔
      (∃ scope, record.val.candidate.val.accessScope = some scope ∧
        s.idempotencyRecords.get? (tenantStorageKey scope.val.tenantId c.val.idempotencyKey) =
          none) ∧
      s.reviewIdentityRecord
        (feedbackMutationIdentityFromCommand record.val.candidate c.val.feedback) = none) := by
    intro record uncovered
    have stored : s.candidateRecords.get? c.val.candidateId = some record := uncovered.target
    have refused := recordFeedback_refuses uncovered.denied
    simp only [IdeaRepository.workflowAnswer, IdeaRepository.workflowStep,
      IdeaRepository.recordFeedbackToRepository, stored, candidateTenantId]
    cases tenant : record.val.candidate.val.accessScope with
    | none =>
        simp only [Option.some.injEq, reduceCtorEq, false_and, exists_false, iff_false, not_and]
        intro raised
        cases raised
    | some scope =>
        simp only [Option.some.injEq, exists_eq_left']
        generalize isAsked : PrecheckRequest.mk scope.val.tenantId c.val.idempotencyKey
          (feedbackPayload c) (feedbackMutationIdentityFromCommand record.val.candidate
            c.val.feedback) = q
        have asked := precheckReview_cases s q (by rw [← isAsked]; exact scope_tenant_not_blank scope)
          (by rw [← isAsked]; exact filled)
        have named : tenantStorageKey q.tenantId q.idempotencyKey =
            tenantStorageKey scope.val.tenantId c.val.idempotencyKey := by rw [← isAsked]
        have same : q.identity =
            feedbackMutationIdentityFromCommand record.val.candidate c.val.feedback := by
          rw [← isAsked]
        -- an answer of the precheck is reported, and a report is no entitlement error
        have reported : ∀ result, (IdeaRepository.feedbackWorkflowResult c result).map
            (fun r => r.persistence.decision) ≠
              .error (.reviewEntitlementDenied record.val.candidate.val.candidateId) := by
          intro result raised
          cases answer : IdeaRepository.feedbackWorkflowResult c result with
          | ok value =>
              rw [answer] at raised
              cases raised
          | error error =>
              rw [answer] at raised
              cases raised
              exact feedbackWorkflowResult_not_entitlement answer
        cases run : s.precheckReviewMutation q with
        | mk answer next =>
            rw [run] at asked
            cases asked with
            | used existing found =>
                rw [named] at found
                simp only [found, reduceCtorEq, false_and, iff_false, not_and]
                intro raised
                exact absurd raised (reported _)
            | replayed holder unused found =>
                rw [same, IdeaRepository.reviewSeen] at found
                obtain ⟨entry, seen, _⟩ := Option.map_eq_some_iff.mp found
                simp only [seen, reduceCtorEq, and_false, iff_false, not_and]
                intro raised
                exact absurd raised (reported _)
            | conflicting holder unused found =>
                rw [same, IdeaRepository.reviewSeen] at found
                obtain ⟨entry, seen, _⟩ := Option.map_eq_some_iff.mp found
                simp only [seen, reduceCtorEq, and_false, iff_false, not_and]
                intro raised
                exact absurd raised (reported _)
            | unseen unused absent =>
                rw [named] at unused
                rw [same, IdeaRepository.reviewSeen, Option.map_eq_none_iff] at absent
                simp only [refused, unused, absent, and_self, iff_true, and_true]
                rfl
  constructor
  · intro holds record uncovered
    exact (each record uncovered).mp (holds record uncovered)
  · intro unseen record uncovered
    exact (each record uncovered).mpr (unseen record uncovered)

/-- Uncovered commands are refused without a trace, exactly when an uncovered
feedback command is one that the store has not seen. -/
theorem refusedUncovered_iff (s : IdeaRepository) (w : WorkflowCall) :
    RefusedUncovered s w ↔ UnseenFeedback s w := by
  cases w with
  | feedback c policy => exact feedback_refused
  | reviewAction c policy => exact ⟨fun _ => trivial, fun _ => review_refused⟩
  | lifecycle c => exact ⟨fun _ => trivial, fun _ => lifecycle_refused⟩
  | conversionIntent c => exact ⟨fun _ => trivial, fun _ => conversionIntent_refused⟩
  | conversionOutcome c => exact ⟨fun _ => trivial, fun _ => conversionOutcome_refused⟩
  | reportEvidencePack c => exact ⟨fun _ => trivial, fun _ => reportEvidencePack_refused⟩
  | repository c =>
      refine ⟨fun _ => trivial, fun _ record uncovered => ?_⟩
      cases uncovered.target

/-- What two stores say of the candidate that a command is about. -/
def WorkflowCall.standing (s : IdeaRepository) (w : WorkflowCall) :
    Option (String × Option ReviewAccessScope) :=
  (w.target s).map fun record =>
    (record.val.candidate.val.candidateId, record.val.candidate.val.accessScope)

/-- Uncovered commands are refused in both stores, with the same answer. -/
structure AuthorisedBeforeReplay (s t : IdeaRepository) (w : WorkflowCall) : Prop where
  first : RefusedUncovered s w
  second : RefusedUncovered t w
  alike : ∀ record, w.Uncovered s record → s.workflowAnswer w = t.workflowAnswer w

/-- For two stores that agree on the candidate's access scope, an uncovered command
is refused with the entitlement error, alike and without a trace, whatever else
the stores hold, exactly when it is no feedback that one of them has seen. -/
theorem authorisation_precedes_replay (s t : IdeaRepository) (w : WorkflowCall)
    (agree : w.standing s = w.standing t) :
    AuthorisedBeforeReplay s t w ↔ UnseenFeedback s w ∧ UnseenFeedback t w := by
  constructor
  · intro holds
    exact ⟨(refusedUncovered_iff s w).mp holds.first, (refusedUncovered_iff t w).mp holds.second⟩
  · rintro ⟨unseen, also⟩
    have first := (refusedUncovered_iff s w).mpr unseen
    have second := (refusedUncovered_iff t w).mpr also
    refine ⟨first, second, ?_⟩
    intro record uncovered
    have told : w.standing s = some
        (record.val.candidate.val.candidateId, record.val.candidate.val.accessScope) := by
      rw [WorkflowCall.standing, uncovered.target]
      rfl
    rw [agree] at told
    obtain ⟨other, found, same⟩ := Option.map_eq_some_iff.mp told
    obtain ⟨sameId, sameScope⟩ := Prod.mk.inj same
    have denied : w.Uncovered t other := ⟨found, by rw [sameScope]; exact uncovered.denied⟩
    rw [(first record uncovered).1, (second other denied).1, sameId]

/-! ## Feedback answered for an adviser who may not see the candidate -/

/-- Feedback on the sample candidate by an adviser for these books. -/
def sampleFeedback (bookIds : List String) (idempotencyKey : String) :
    Except PyError RecordFeedbackToRepositoryCommand := do
  let actor ← Checked.make ReviewActorContextFields.checks
    { actorSubject := "advisor-1", role := .advisor, tenantIds := ["tenant-a"]
      bookIds := bookIds, portfolioIds := ["portfolio-1"], clientIds := ["client-1"] }
  let feedback ← Checked.make FeedbackCommandFields.checks
    { feedbackId := "feedback-1", actor := actor, outcome := .useful, reason := .relevant
      taxonomyVersion := "idea-feedback-taxonomy-v1", recordedAtUtc := .utc 20 }
  Checked.make RecordFeedbackToRepositoryCommandFields.checks
    { candidateId := "idea-1", feedback := feedback, idempotencyKey := idempotencyKey
      acceptedAtUtc := .utc 20, eventLineage := some sampleLineage }

/-- The candidate is persisted and has its feedback. -/
def sampleFeedbackRecorded (c : RecordFeedbackToRepositoryCommand) : List WorkflowCall :=
  [.repository (samplePersist "persist-1" false 10), .feedback c defaultReviewActionPolicy]

/-- The uncovered command is answered with a replay, which binds its key. -/
def answersUncovered (s : IdeaRepository) (d : RecordFeedbackToRepositoryCommand) : Bool :=
  let w := WorkflowCall.feedback d defaultReviewActionPolicy
  let key := tenantStorageKey "tenant-a" d.val.idempotencyKey
  (w.target s).any (fun record => !w.covers record.val.candidate.val.accessScope) &&
    decide ((s.recordFeedbackToRepository d defaultReviewActionPolicy).1.toOption.map
      (fun r => r.persistence.decision) = some .replayed) &&
    (s.idempotencyRecords.get? key).isNone &&
    ((s.workflowStep w).idempotencyRecords.get? key).isSome

theorem not_refused_of_answersUncovered {s : IdeaRepository}
    {d : RecordFeedbackToRepositoryCommand} (answers : answersUncovered s d = true) :
    let w := WorkflowCall.feedback d defaultReviewActionPolicy
    (∃ record, w.Uncovered s record) ∧ s.workflowAnswer w = some (.ok .replayed) ∧
      s.workflowStep w ≠ s := by
  simp only [answersUncovered, Bool.and_eq_true, decide_eq_true_eq] at answers
  obtain ⟨⟨⟨denied, replayed⟩, unbound⟩, bound⟩ := answers
  obtain ⟨record, target, uncovered⟩ := (Option.any_eq_true _ _).mp denied
  refine ⟨⟨record, target, by simpa using uncovered⟩, ?_, ?_⟩
  · simp only [IdeaRepository.workflowAnswer]
    cases answer : (s.recordFeedbackToRepository d defaultReviewActionPolicy).1 with
    | error raised =>
        rw [answer] at replayed
        cases replayed
    | ok result =>
        rw [answer] at replayed
        simp only [Except.toOption, Option.map_some, Option.some.injEq] at replayed
        simp only [Except.map, replayed]
  · intro same
    rw [same] at bound
    rw [Option.isNone_iff_eq_none.mp unbound] at bound
    cases bound

end

section Sample

local instance entitlementSha256 : Sha256 := Sha256.zeros

def sampleUncoveredFeedback : Bool :=
  match sampleFeedback ["book-1"] "feedback-1", sampleFeedback ["book-2"] "feedback-2" with
  | .ok c, .ok d =>
      answersUncovered (IdeaRepository.empty.workflowRun (sampleFeedbackRecorded c)) d
  | _, _ => false

set_option maxRecDepth 10000 in
theorem sampleUncoveredFeedback_holds : sampleUncoveredFeedback = true := by decide +kernel

/-- An adviser who may not see the candidate is told that the feedback was recorded
and leaves a bound key behind. -/
theorem uncovered_feedback_replayed : ∃ c d,
    sampleFeedback ["book-1"] "feedback-1" = .ok c ∧
    sampleFeedback ["book-2"] "feedback-2" = .ok d ∧
    let s := IdeaRepository.empty.workflowRun (sampleFeedbackRecorded c)
    let w := WorkflowCall.feedback d defaultReviewActionPolicy
    (∃ record, w.Uncovered s record) ∧ s.workflowAnswer w = some (.ok .replayed) ∧
      s.workflowStep w ≠ s := by
  have answers := sampleUncoveredFeedback_holds
  unfold sampleUncoveredFeedback at answers
  split at answers
  · rename_i c d first second
    exact ⟨c, d, first, second, not_refused_of_answersUncovered answers⟩
  · cases answers

/-- Two stores that differ in the version of the candidate only. -/
theorem sampleStanding_agrees :
    ((IdeaRepository.empty.run [samplePersist "persist-1" false 10]).candidateRecords.get?
        "idea-1").map (fun r => (r.val.candidate.val.candidateId, r.val.candidate.val.accessScope)) =
      ((IdeaRepository.empty.run [samplePersist "persist-1" false 10,
        samplePersist "persist-2" true 25]).candidateRecords.get? "idea-1").map
          (fun r => (r.val.candidate.val.candidateId, r.val.candidate.val.accessScope)) := by
  decide +kernel

theorem authorisation_precedes_replay_sample : ∃ d,
    sampleFeedback ["book-2"] "feedback-2" = .ok d ∧
    let s := IdeaRepository.empty.run [samplePersist "persist-1" false 10]
    let t := IdeaRepository.empty.run
      [samplePersist "persist-1" false 10, samplePersist "persist-2" true 25]
    let w := WorkflowCall.feedback d defaultReviewActionPolicy
    (AuthorisedBeforeReplay s t w ↔
      WorkflowCall.UnseenFeedback s w ∧ WorkflowCall.UnseenFeedback t w) := by
  obtain ⟨d, made⟩ : ∃ d, sampleFeedback ["book-2"] "feedback-2" = .ok d := ⟨_, rfl⟩
  refine ⟨d, made, authorisation_precedes_replay _ _ _ ?_⟩
  have named : d.val.candidateId = "idea-1" := by
    cases made
    rfl
  simp only [WorkflowCall.standing, WorkflowCall.target, named]
  exact sampleStanding_agrees

end Sample

end LotusIdea

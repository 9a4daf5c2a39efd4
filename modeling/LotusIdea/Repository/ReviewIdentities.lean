import LotusIdea.Repository.ReviewPostures

/-!
# Predicted review identities

A review is known under one identity twice: the precheck derives it from the
command, before the domain decides, and the write derives it from the decision.
The two are the same, so on one stored state precheck and write answer alike
whether the review is a replay, an identity conflict or new.
-/

set_option autoImplicit false

namespace LotusIdea

open IdeaRepository

section Predicted

variable [Sha256]

/-- What the precheck says of a review and what the write makes of it. -/
structure PrecheckAgrees (s : IdeaRepository)
    (prechecked : Except PyError (Option PersistenceResult) × IdeaRepository)
    (recorded : Except PyError PersistenceResult × IdeaRepository) : Prop where
  answers : ∀ answer, prechecked.1 = .ok (some answer) → recorded = (.ok answer, prechecked.2)
  raises : ∀ raised, prechecked.1 = .error raised → recorded = (.error raised, s)
  passes : prechecked.1 = .ok none →
    prechecked.2 = s ∧ ∀ answer, recorded.1 = .ok answer → answer.decision = .accepted

/-- The answer to a known identity is committed without an error. -/
theorem commit_identityPlan (s : IdeaRepository)
    {existing : Option (Bool × CandidatePersistenceRecord)} {mismatch : PersistenceDecision}
    {storageKey : String} {idempotencyRecord : IdempotencyRecord} {plan : MutationPlan}
    (known : identityPlan existing mismatch storageKey idempotencyRecord = some plan) :
    ∃ answer, (s.commit plan).1 = .ok answer := by
  obtain ⟨⟨same, record⟩, -, planned⟩ := Option.map_eq_some_iff.mp known
  subst planned
  cases same with
  | true => exact ⟨_, rfl⟩
  | false => exact ⟨_, rfl⟩

/-- A review that is new is accepted or raises. -/
theorem reviewedPlan_accepts {q : ResultRequest ReviewActionResult}
    {record : CandidatePersistenceRecord} {storageKey : String}
    {idempotencyRecord : IdempotencyRecord} {s : IdeaRepository} {answer : PersistenceResult}
    (run : (s.runPlan (IdeaRepository.reviewedPlan q record storageKey idempotencyRecord)).1 =
      .ok answer) : answer.decision = .accepted := by
  cases planned : IdeaRepository.reviewedPlan q record storageKey idempotencyRecord with
  | error raised =>
      rw [planned] at run
      cases run
  | ok plan =>
      rw [planned] at run
      simp only [IdeaRepository.reviewedPlan] at planned
      obtain ⟨_, _, planned⟩ := Except.seq_returns.mp planned
      obtain ⟨history, _, planned⟩ := Except.seq_returns.mp planned
      obtain ⟨updated, _, planned⟩ := Except.seq_returns.mp planned
      cases planned
      simp only [IdeaRepository.runPlan, IdeaRepository.commit] at run
      split at run
      · cases run
      · cases run
        rfl

/-- The identity that a command predicts is the identity of its decision, and on
every store that holds the candidate in a scope the precheck and the write agree. -/
theorem review_identity_predicted {candidate : IdeaCandidate} {command : ReviewDecisionCommand}
    {acceptedAtUtc : DateTime} {receipt : Option CandidatePresentationReceipt}
    {policy : ReviewActionPolicy} {result : ReviewActionResult}
    (accepted : applyReviewAction candidate command acceptedAtUtc receipt policy = .ok result) :
    reviewMutationIdentityFromDecision result.decision =
        reviewMutationIdentityFromCommand candidate command ∧
      ∀ (s : IdeaRepository) (record : CandidatePersistenceRecord) (scope : ReviewAccessScope)
        (idempotencyKey : String) (payload : Json) (eventLineage : Option EventLineageContext),
        s.candidateRecords.get? candidate.val.candidateId = some record →
        record.val.candidate.val.accessScope = some scope →
        PrecheckAgrees s
          (s.precheckReviewMutation
            { tenantId := scope.val.tenantId
              idempotencyKey := idempotencyKey
              payload := payload
              identity := reviewMutationIdentityFromCommand candidate command })
          (s.recordReviewAction
            { idempotencyKey := idempotencyKey
              payload := payload
              eventLineage := eventLineage
              result := result }) := by
  obtain ⟨predicted, -, -⟩ := applyReviewAction_identity accepted
  refine ⟨predicted, ?_⟩
  intro s record scope idempotencyKey payload eventLineage stored inScope
  have named : result.decision.val.candidateId = candidate.val.candidateId := by
    have same := congrArg ReviewMutationIdentity.candidateId predicted
    exact same
  have shown : PyText.isBlank candidate.val.candidateId = false := by
    have passed := candidate.valid
    simp only [IdeaCandidateFields.checks, firstFailure_cons] at passed
    exact passed.1
  rw [← predicted]
  simp only [precheckReviewMutation, precheck, recordReviewAction, reviewPlan, named]
  cases blank : PyText.isBlank idempotencyKey with
  | true =>
      have refused : validate [requireText idempotencyKey "idempotency_key"] =
          .error (.valueError "idempotency_key is required") := by
        rw [validate_eq_error, requireText, blank]
        rfl
      have refusedToo : validate [requireText idempotencyKey "idempotency_key",
          requireText candidate.val.candidateId "candidate_id"] =
            .error (.valueError "idempotency_key is required") := by
        rw [validate_eq_error, requireText, blank]
        rfl
      rw [refused, refusedToo]
      constructor
      · intro answer run
        cases run
      · intro raised run
        cases run
        rfl
      · intro run
        cases run
  | false =>
      have passed : validate [requireText idempotencyKey "idempotency_key"] = .ok () := by
        simp [validate_eq_ok, blank]
      have passedToo : validate [requireText idempotencyKey "idempotency_key",
          requireText candidate.val.candidateId "candidate_id"] = .ok () := by
        simp [validate_eq_ok, blank, shown]
      rw [passed, passedToo]
      simp only [planForRecord, stored, inScope]
      cases admitted : s.admission scope.val.tenantId idempotencyKey payload with
      | error raised =>
          constructor
          · intro answer run
            cases run
          · intro own run
            cases run
            rfl
          · intro run
            cases run
      | ok admission =>
          cases admission with
          | answered answer =>
              constructor
              · intro own run
                cases run
                rfl
              · intro raised run
                cases run
              · intro run
                cases run
          | fresh storageKey idempotencyRecord =>
              cases known : s.reviewIdentityPlan
                  (reviewMutationIdentityFromDecision result.decision) storageKey
                  idempotencyRecord with
              | none =>
                  simp only [bind, Except.bind, known]
                  constructor
                  · intro answer run
                    cases run
                  · intro raised run
                    cases run
                  · intro run
                    refine ⟨rfl, ?_⟩
                    intro answer recorded
                    exact reviewedPlan_accepts recorded
              | some plan =>
                  simp only [bind, Except.bind, known]
                  obtain ⟨answer, committed⟩ := commit_identityPlan s known
                  constructor
                  · intro own run
                    rw [committed] at run
                    cases run
                    exact Prod.ext committed rfl
                  · intro raised run
                    rw [committed] at run
                    cases run
                  · intro run
                    rw [committed] at run
                    cases run

end Predicted

section Sample

attribute [local instance] postureSha256

/-- The advisor's snooze is known under the identity that its command predicts. -/
theorem review_identity_predicted_sample : ∃ command result,
    applyReviewAction (sampleWaiting true) command (.utc 20) none sampleReviewPolicy =
      .ok result ∧
    reviewMutationIdentityFromDecision result.decision =
      reviewMutationIdentityFromCommand (sampleWaiting true) command := by
  obtain ⟨command, result, answer, sample⟩ := sampleSnoozed_reads sampleSnoozed_agrees
  obtain ⟨predicted, -⟩ := review_identity_predicted sample.governed
  exact ⟨command, result, sample.governed, predicted⟩

end Sample

end LotusIdea

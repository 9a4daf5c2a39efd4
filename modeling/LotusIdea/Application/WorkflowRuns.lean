import LotusIdea.Application.Workflows
import LotusIdea.Repository.Writes

/-!
# Runs of workflow commands

A workflow command reaches the repository through a few repository calls, all of
them governed.  Runs of commands, mixed with the repository calls that are not
workflows, are therefore runs of the repository.
-/

set_option autoImplicit false

namespace LotusIdea

open IdeaRepository (ResultRequest PrecheckRequest)

section
variable [Sha256]

/-- The commands of the six workflows, and every repository call beside them. -/
inductive WorkflowCall where
  | reviewAction (c : ApplyReviewActionToRepositoryCommand) (policy : ReviewActionPolicy)
  | feedback (c : RecordFeedbackToRepositoryCommand) (policy : ReviewActionPolicy)
  | lifecycle (c : ApplyCandidateLifecycleTransitionCommand)
  | conversionIntent (c : RequestConversionIntentToRepositoryCommand)
  | conversionOutcome (c : RecordConversionOutcomeToRepositoryCommand)
  | reportEvidencePack (c : RequestReportEvidencePackToRepositoryCommand)
  | repository (c : RepositoryCall)

def WorkflowCall.Governed : WorkflowCall → Prop
  | .repository c => c.Governed
  | _ => True

namespace IdeaRepository

def workflowStep (s : IdeaRepository) : WorkflowCall → IdeaRepository
  | .reviewAction c policy => (s.applyReviewActionToRepository c policy).2
  | .feedback c policy => (s.recordFeedbackToRepository c policy).2
  | .lifecycle c => (s.applyCandidateLifecycleTransitionToRepository c).2
  | .conversionIntent c => (s.requestConversionIntentToRepository c).2
  | .conversionOutcome c => (s.recordConversionOutcomeToRepository c).2
  | .reportEvidencePack c => (s.requestReportEvidencePackToRepository c).2
  | .repository c => s.step c

def workflowRun (s : IdeaRepository) (calls : List WorkflowCall) : IdeaRepository :=
  Runs.run IdeaRepository.workflowStep s calls

end IdeaRepository

/-! ## The mutations of the workflows -/

def reviewRequest (c : ApplyReviewActionToRepositoryCommand) (result : ReviewActionResult) :
    ResultRequest ReviewActionResult where
  idempotencyKey := c.val.idempotencyKey
  payload := reviewPayload c
  eventLineage := c.val.eventLineage
  result := result

def feedbackRequest (c : RecordFeedbackToRepositoryCommand) (result : FeedbackResult) :
    ResultRequest FeedbackResult where
  idempotencyKey := c.val.idempotencyKey
  payload := feedbackPayload c
  eventLineage := c.val.eventLineage
  result := result

def conversionIntentRequest (c : RequestConversionIntentToRepositoryCommand)
    (result : ConversionIntentResult) : ResultRequest ConversionIntentResult where
  idempotencyKey := c.val.idempotencyKey
  payload := conversionIntentPayload c
  eventLineage := c.val.eventLineage
  result := result

def conversionOutcomeRequest (c : RecordConversionOutcomeToRepositoryCommand)
    (result : ConversionOutcomeResult) : ResultRequest ConversionOutcomeResult where
  idempotencyKey := c.val.idempotencyKey
  payload := conversionOutcomePayload c
  eventLineage := c.val.eventLineage
  result := result

def reportEvidencePackRequest (c : RequestReportEvidencePackToRepositoryCommand)
    (result : ReportEvidencePackResult) : ResultRequest ReportEvidencePackResult where
  idempotencyKey := c.val.idempotencyKey
  payload := reportEvidencePackPayload c
  eventLineage := c.val.eventLineage
  result := result

/-- The repository calls that a workflow command may make. -/
inductive IssuedBy : WorkflowCall → RepositoryCall → Prop where
  | reviewPrecheck (c : ApplyReviewActionToRepositoryCommand) (policy : ReviewActionPolicy)
      (q : PrecheckRequest ReviewMutationIdentity) :
      IssuedBy (.reviewAction c policy) (.precheckReview q)
  | review (c : ApplyReviewActionToRepositoryCommand) (policy : ReviewActionPolicy)
      (candidate : IdeaCandidate) (receipt : Option CandidatePresentationReceipt)
      (result : ReviewActionResult)
      (decided : applyReviewAction candidate c.val.review c.val.acceptedAtUtc receipt policy =
        .ok result) :
      IssuedBy (.reviewAction c policy) (.mutate (.recordReviewAction (reviewRequest c result)))
  | feedbackPrecheck (c : RecordFeedbackToRepositoryCommand) (policy : ReviewActionPolicy)
      (q : PrecheckRequest ReviewMutationIdentity) :
      IssuedBy (.feedback c policy) (.precheckReview q)
  | feedback (c : RecordFeedbackToRepositoryCommand) (policy : ReviewActionPolicy)
      (candidate : IdeaCandidate) (result : FeedbackResult)
      (decided : recordFeedback candidate c.val.feedback c.val.acceptedAtUtc policy = .ok result) :
      IssuedBy (.feedback c policy) (.mutate (.recordFeedbackEvent (feedbackRequest c result)))
  | lifecycle (c : ApplyCandidateLifecycleTransitionCommand) :
      IssuedBy (.lifecycle c)
        (.mutate (.recordLifecycleTransition (IdeaRepository.lifecycleRequest c)))
  | conversionIntent (c : RequestConversionIntentToRepositoryCommand) (candidate : IdeaCandidate)
      (grant : ReviewAuthorityGrant) (result : ConversionIntentResult)
      (decided : requestConversionIntent candidate c.val.conversion c.val.acceptedAtUtc grant =
        .ok result) :
      IssuedBy (.conversionIntent c)
        (.mutate (.recordConversionIntent (conversionIntentRequest c result)))
  | outcomePrecheck (c : RecordConversionOutcomeToRepositoryCommand)
      (q : PrecheckRequest ConversionOutcomeIdentity) :
      IssuedBy (.conversionOutcome c) (.precheckOutcome q)
  | conversionOutcome (c : RecordConversionOutcomeToRepositoryCommand)
      (intent : GovernedConversionIntent) (existing : List GovernedConversionOutcome)
      (result : ConversionOutcomeResult)
      (decided : recordConversionOutcome intent c.val.outcome c.val.acceptedAtUtc existing =
        .ok result) :
      IssuedBy (.conversionOutcome c)
        (.mutate (.recordConversionOutcome (conversionOutcomeRequest c result)))
  | reportEvidencePack (c : RequestReportEvidencePackToRepositoryCommand)
      (candidate : IdeaCandidate) (intent : GovernedConversionIntent)
      (result : ReportEvidencePackResult)
      (decided : requestReportEvidencePack candidate intent c.val.evidencePack = .ok result) :
      IssuedBy (.reportEvidencePack c)
        (.mutate (.recordReportEvidencePack (reportEvidencePackRequest c result)))
  | repository (c : RepositoryCall) : IssuedBy (.repository c) c

theorem IssuedBy.governed {w : WorkflowCall} {c : RepositoryCall} (issued : IssuedBy w c)
    (governed : w.Governed) : c.Governed := by
  cases issued with
  | review c policy candidate receipt result decided =>
      exact ⟨candidate, _, _, receipt, policy, decided⟩
  | conversionIntent c candidate grant result decided =>
      exact ⟨candidate, _, _, grant, decided⟩
  | repository c => exact governed
  | reviewPrecheck | feedbackPrecheck | feedback | lifecycle | outcomePrecheck
  | conversionOutcome | reportEvidencePack => trivial

/-! ## What each workflow calls -/

/-- Reached by repository calls that are all allowed. -/
def ReachedBy (Allowed : RepositoryCall → Prop) (s next : IdeaRepository) : Prop :=
  ∃ calls, next = s.run calls ∧ ∀ c ∈ calls, Allowed c

namespace ReachedBy
variable {Allowed : RepositoryCall → Prop} {s next final : IdeaRepository}

theorem refl (s : IdeaRepository) : ReachedBy Allowed s s :=
  ⟨[], rfl, fun c member => by cases member⟩

theorem call {c : RepositoryCall} (allowed : Allowed c) : ReachedBy Allowed s (s.step c) := by
  refine ⟨[c], rfl, ?_⟩
  intro d member
  rw [List.mem_singleton.mp member]
  exact allowed

theorem trans (first : ReachedBy Allowed s next) (later : ReachedBy Allowed next final) :
    ReachedBy Allowed s final := by
  obtain ⟨calls, rfl, allowed⟩ := first
  obtain ⟨rest, rfl, further⟩ := later
  refine ⟨calls ++ rest, (IdeaRepository.run_append _ _ _).symm, ?_⟩
  intro c member
  rcases List.mem_append.mp member with early | late
  · exact allowed c early
  · exact further c late

theorem imp {Other : RepositoryCall → Prop} (reached : ReachedBy Allowed s next)
    (wider : ∀ c, Allowed c → Other c) : ReachedBy Other s next := by
  obtain ⟨calls, same, allowed⟩ := reached
  exact ⟨calls, same, fun c member => wider c (allowed c member)⟩

end ReachedBy

namespace IdeaRepository

theorem reviewAction_reaches (s : IdeaRepository) (c : ApplyReviewActionToRepositoryCommand)
    (policy : ReviewActionPolicy) :
    ReachedBy (IssuedBy (.reviewAction c policy)) s (s.workflowStep (.reviewAction c policy)) := by
  simp only [workflowStep, applyReviewActionToRepository]
  split
  · exact .refl s
  rename_i record _
  split
  · exact .refl s
  split
  · exact .refl s
  rename_i tenantId _
  generalize PrecheckRequest.mk tenantId c.val.idempotencyKey (reviewPayload c)
    (reviewMutationIdentityFromCommand record.val.candidate c.val.review) = q
  have asked : ReachedBy (IssuedBy (.reviewAction c policy)) s (s.precheckReviewMutation q).2 :=
    .call (c := .precheckReview q) (.reviewPrecheck c policy q)
  split
  · simpa only [*] using asked
  · simpa only [*] using asked
  rename_i next run
  rw [run] at asked
  split
  · exact asked
  rename_i result decided
  simp only [reviewDecided] at decided
  obtain ⟨receipt, _, decided⟩ := Except.seq_returns.mp decided
  have moved : ReachedBy (IssuedBy (.reviewAction c policy)) next
      (next.recordReviewAction (reviewRequest c result)).2 :=
    .call (c := .mutate (.recordReviewAction _)) (.review c policy _ receipt result decided)
  simp only [reviewRequest] at moved
  split
  · rename_i ran
    rw [ran] at moved
    exact asked.trans moved
  · rename_i ran
    rw [ran] at moved
    exact asked.trans moved

theorem feedback_reaches (s : IdeaRepository) (c : RecordFeedbackToRepositoryCommand)
    (policy : ReviewActionPolicy) :
    ReachedBy (IssuedBy (.feedback c policy)) s (s.workflowStep (.feedback c policy)) := by
  simp only [workflowStep, recordFeedbackToRepository]
  split
  · exact .refl s
  rename_i record _
  split
  · exact .refl s
  rename_i tenantId _
  generalize PrecheckRequest.mk tenantId c.val.idempotencyKey (feedbackPayload c)
    (feedbackMutationIdentityFromCommand record.val.candidate c.val.feedback) = q
  have asked : ReachedBy (IssuedBy (.feedback c policy)) s (s.precheckReviewMutation q).2 :=
    .call (c := .precheckReview q) (.feedbackPrecheck c policy q)
  split
  · simpa only [*] using asked
  · simpa only [*] using asked
  rename_i next run
  rw [run] at asked
  split
  · exact asked
  rename_i result decided
  have moved : ReachedBy (IssuedBy (.feedback c policy)) next
      (next.recordFeedbackEvent (feedbackRequest c result)).2 :=
    .call (c := .mutate (.recordFeedbackEvent _)) (.feedback c policy _ result decided)
  simp only [feedbackRequest] at moved
  split
  · rename_i ran
    rw [ran] at moved
    exact asked.trans moved
  · rename_i ran
    rw [ran] at moved
    exact asked.trans moved

theorem lifecycle_reaches (s : IdeaRepository) (c : ApplyCandidateLifecycleTransitionCommand) :
    ReachedBy (IssuedBy (.lifecycle c)) s (s.workflowStep (.lifecycle c)) := by
  simp only [workflowStep, applyCandidateLifecycleTransitionToRepository]
  split
  · exact .refl s
  split
  · exact .refl s
  have moved : ReachedBy (IssuedBy (.lifecycle c)) s
      (s.recordLifecycleTransition (lifecycleRequest c)).2 :=
    .call (c := .mutate (.recordLifecycleTransition _)) (.lifecycle c)
  split
  · rename_i ran
    rw [ran] at moved
    exact moved
  · rename_i ran
    rw [ran] at moved
    exact moved

/-- A conversion request leaves the state alone or records the domain's intent. -/
theorem conversionIntent_state (s : IdeaRepository)
    (c : RequestConversionIntentToRepositoryCommand) :
    s.workflowStep (.conversionIntent c) = s ∨
    ∃ record grant result, s.candidateRecords.get? c.val.candidateId = some record ∧
      requestConversionIntent record.val.candidate c.val.conversion c.val.acceptedAtUtc grant =
        .ok result ∧
      s.workflowStep (.conversionIntent c) =
        s.step (.mutate (.recordConversionIntent (conversionIntentRequest c result))) := by
  simp only [workflowStep, requestConversionIntentToRepository]
  split
  · exact Or.inl rfl
  rename_i record stored
  split
  · exact Or.inl rfl
  split
  · exact Or.inl rfl
  split
  · exact Or.inl rfl
  · exact Or.inl rfl
  split
  · exact Or.inl rfl
  rename_i result decided
  simp only [conversionDecided] at decided
  obtain ⟨grant, _, decided⟩ := Except.seq_returns.mp decided
  refine Or.inr ⟨record, grant, result, stored, decided, ?_⟩
  simp only [step]
  change _ = (s.recordConversionIntent (conversionIntentRequest c result)).2
  simp only [conversionIntentRequest]
  split <;> simp only [*]

theorem conversionIntent_reaches (s : IdeaRepository)
    (c : RequestConversionIntentToRepositoryCommand) :
    ReachedBy (IssuedBy (.conversionIntent c)) s (s.workflowStep (.conversionIntent c)) := by
  rcases conversionIntent_state s c with same | ⟨record, grant, result, _, decided, moved⟩
  · rw [same]
    exact .refl s
  · rw [moved]
    exact .call (.conversionIntent c _ grant result decided)

theorem conversionOutcome_reaches (s : IdeaRepository)
    (c : RecordConversionOutcomeToRepositoryCommand) :
    ReachedBy (IssuedBy (.conversionOutcome c)) s (s.workflowStep (.conversionOutcome c)) := by
  simp only [workflowStep, recordConversionOutcomeToRepository]
  split
  · exact .refl s
  rename_i intent _
  split
  · exact .refl s
  rename_i record _
  split
  · exact .refl s
  simp only [recordOutcomeOf]
  split
  · exact .refl s
  rename_i tenantId _
  generalize PrecheckRequest.mk tenantId c.val.idempotencyKey (conversionOutcomePayload c)
    (conversionOutcomeIdentityFromCommand intent c.val.outcome) = q
  have asked : ReachedBy (IssuedBy (.conversionOutcome c)) s
      (s.precheckConversionOutcomeMutation q).2 :=
    .call (c := .precheckOutcome q) (.outcomePrecheck c q)
  split
  · simpa only [*] using asked
  · simpa only [*] using asked
  rename_i next run
  rw [run] at asked
  split
  · exact asked
  rename_i result decided
  have moved : ReachedBy (IssuedBy (.conversionOutcome c)) next
      (next.recordConversionOutcome (conversionOutcomeRequest c result)).2 :=
    .call (c := .mutate (.recordConversionOutcome _)) (.conversionOutcome c intent _ result decided)
  simp only [conversionOutcomeRequest] at moved
  split
  · rename_i ran
    rw [ran] at moved
    exact asked.trans moved
  · rename_i ran
    rw [ran] at moved
    exact asked.trans moved

/-- A pack request leaves the state alone or records the domain's pack. -/
theorem reportEvidencePack_state (s : IdeaRepository)
    (c : RequestReportEvidencePackToRepositoryCommand) :
    s.workflowStep (.reportEvidencePack c) = s ∨
    ∃ intent record result,
      s.conversionIntentById c.val.conversionIntentId = some intent ∧
      s.candidateRecordForConversionIntent c.val.conversionIntentId = some record ∧
      requestReportEvidencePack record.val.candidate intent c.val.evidencePack = .ok result ∧
      s.workflowStep (.reportEvidencePack c) =
        s.step (.mutate (.recordReportEvidencePack (reportEvidencePackRequest c result))) := by
  simp only [workflowStep, requestReportEvidencePackToRepository]
  split
  · rename_i intent record foundIntent foundRecord
    split
    · exact Or.inl rfl
    simp only [requestPackOf]
    split
    · exact Or.inl rfl
    split
    · exact Or.inl rfl
    · exact Or.inl rfl
    split
    · exact Or.inl rfl
    rename_i result decided
    refine Or.inr ⟨intent, record, result, foundIntent, foundRecord, decided, ?_⟩
    simp only [step]
    change _ = (s.recordReportEvidencePack (reportEvidencePackRequest c result)).2
    simp only [reportEvidencePackRequest]
    split <;> simp only [*]
  · exact Or.inl rfl

theorem reportEvidencePack_reaches (s : IdeaRepository)
    (c : RequestReportEvidencePackToRepositoryCommand) :
    ReachedBy (IssuedBy (.reportEvidencePack c)) s (s.workflowStep (.reportEvidencePack c)) := by
  rcases reportEvidencePack_state s c with same | ⟨intent, record, result, _, _, decided, moved⟩
  · rw [same]
    exact .refl s
  · rw [moved]
    exact .call (.reportEvidencePack c _ intent result decided)

/-- A workflow command reaches its state through the repository calls it may make. -/
theorem workflow_reaches (s : IdeaRepository) (w : WorkflowCall) :
    ReachedBy (IssuedBy w) s (s.workflowStep w) := by
  cases w with
  | reviewAction c policy => exact s.reviewAction_reaches c policy
  | feedback c policy => exact s.feedback_reaches c policy
  | lifecycle c => exact s.lifecycle_reaches c
  | conversionIntent c => exact s.conversionIntent_reaches c
  | conversionOutcome c => exact s.conversionOutcome_reaches c
  | reportEvidencePack c => exact s.reportEvidencePack_reaches c
  | repository c => exact .call (.repository c)

end IdeaRepository

/-- A run of governed commands is a run of governed repository calls. -/
theorem workflowRun_reaches {s : IdeaRepository} {calls : List WorkflowCall}
    (governed : ∀ w ∈ calls, w.Governed) :
    ReachedBy RepositoryCall.Governed s (s.workflowRun calls) :=
  Runs.related IdeaRepository.workflowStep WorkflowCall.Governed (fun _ => True)
    (ReachedBy RepositoryCall.Governed) .refl (fun _ _ _ first later => first.trans later)
    (fun _ _ _ _ => trivial)
    (fun s w good _ => (s.workflow_reaches w).imp fun _ issued => issued.governed good)
    trivial governed

/-- Repository calls run as commands are the repository's own run. -/
theorem workflowRun_repository (s : IdeaRepository) (calls : List RepositoryCall) :
    s.workflowRun (calls.map .repository) = s.run calls := by
  induction calls generalizing s with
  | nil => rfl
  | cons call rest ih => exact ih (s.step call)

theorem keyed_after_workflow {s : IdeaRepository} (keyed : s.Keyed) {w : WorkflowCall}
    (governed : w.Governed) : (s.workflowStep w).Keyed := by
  obtain ⟨calls, same, issued⟩ := s.workflow_reaches w
  rw [same]
  exact keyed_after_run keyed fun c member => (issued c member).governed governed

end

end LotusIdea

import LotusIdea.Domain.ReportEvidence
import LotusIdea.Domain.ReviewQueue
import LotusIdea.Domain.ReviewStates
import LotusIdea.Foundation.Raising

/-!
# No operation leaves the compatible states

`InvalidCandidateState` is raised where a status meets a posture that it does not
admit.  Every edge of the lifecycle, every review, conversion and reconciliation
starts from a compatible pair and ends in one, so none of them raises it.
-/

set_option autoImplicit false

namespace LotusIdea

def PyError.IsCandidateState : PyError → Prop
  | .invalidCandidateState _ _ _ => True
  | _ => False

/-- The computation does not raise `InvalidCandidateState`. -/
abbrev KeepsState {α : Type} (run : Except PyError α) : Prop :=
  Except.Avoids PyError.IsCandidateState run

abbrev StateFree (checks : List (Bool × PyError)) : Prop :=
  Harmless PyError.IsCandidateState checks

/-! ## Checks -/

section Checks

theorem validate_keepsState {checks : List (Bool × PyError)} (harmless : StateFree checks) :
    KeepsState (validate checks) := by
  intro error raised
  exact firstFailure_harmless harmless (validate_eq_error.mp raised)

@[simp] theorem isCandidateState_valueError (message : String) :
    ¬ PyError.IsCandidateState (.valueError message) := fun state => state

@[simp] theorem requireText_raises (value fieldName : String) :
    (requireText value fieldName).2 = .valueError (fieldName ++ " is required") := rfl

@[simp] theorem requireOptionalText_raises (value : Option String) (fieldName : String) :
    (requireOptionalText value fieldName).2 = .valueError (fieldName ++ " is required") := rfl

@[simp] theorem requireAware_raises (value : DateTime) (fieldName : String) :
    (requireAware value fieldName).2 = .valueError (fieldName ++ " must be timezone-aware") := rfl

@[simp] theorem requireAwareUtc_stateFree (value : DateTime) (fieldName : String) :
    StateFree (requireAwareUtc value fieldName) := by
  simp [requireAwareUtc]

@[simp] theorem observedTimeChecks_stateFree (observedAtUtc acceptedAtUtc : DateTime)
    (policy : ObservedTimePolicy) :
    StateFree (observedTimeChecks observedAtUtc acceptedAtUtc policy) := by
  simp [observedTimeChecks, requireUtcOffset, PyError.IsCandidateState]

@[simp] theorem auditEvent_stateFree (a : AuditEventFields) : StateFree a.checks := by
  simp [AuditEventFields.checks]

theorem auditEvent_keepsState (a : AuditEventFields) : KeepsState (AuditEvent.create a) :=
  Checked.make_avoids (auditEvent_stateFree a)

end Checks

/-! ## Candidates and their transitions -/

/-- A candidate is built on a compatible pair. -/
theorem create_keepsState {c : IdeaCandidateFields}
    (compatible : candidateStateIsCompatible c.lifecycleStatus c.reviewPosture = true) :
    KeepsState (IdeaCandidate.create c) := by
  refine Checked.make_avoids ?_
  simp [IdeaCandidateFields.checks, compatible]

theorem normalized_compatible {status : IdeaLifecycleStatus} {posture : ReviewPosture}
    (normalized : normalizedTransitionPostures status = some posture) :
    candidateStateIsCompatible status posture = true := by
  cases status <;> cases normalized <;> rfl

theorem default_compatible {status : IdeaLifecycleStatus} {posture : ReviewPosture}
    (default_ : defaultTransitionPostures status = some posture) :
    candidateStateIsCompatible status posture = true := by
  cases status with
  | readyForReview =>
      cases default_
      rfl
  | _ => cases default_

/-- An edge to a status that neither settles the posture nor has a default one stays
among the discovery postures. -/
theorem discovery_edge {source target : IdeaLifecycleStatus}
    (edge : target ∈ allowedLifecycleTransitions source)
    (unsettled : normalizedTransitionPostures target = none)
    (undefaulted : defaultTransitionPostures target = none) :
    allowedReviewPosturesByLifecycle source = allowedReviewPosturesByLifecycle target := by
  cases target with
  | detected | generated | enriched | scored | governanceChecked =>
      cases source <;> first | rfl | (revert edge; decide)
  | readyForReview => cases undefaulted
  | reviewedByAdvisor | approved | convertedToProposal | convertedToManageReview
  | convertedToReport | accepted | rejected | expired | executed | closed => cases unsettled

/-- Along an edge a compatible posture becomes a compatible posture. -/
theorem reviewPostureForTransition_edge {source target : IdeaLifecycleStatus}
    {posture : ReviewPosture} (candidateId : String)
    (edge : target ∈ allowedLifecycleTransitions source)
    (compatible : candidateStateIsCompatible source posture = true) :
    ∃ next, reviewPostureForTransition candidateId posture target = .ok next ∧
      candidateStateIsCompatible target next = true := by
  unfold reviewPostureForTransition
  cases settled : normalizedTransitionPostures target with
  | some normalized => exact ⟨normalized, rfl, normalized_compatible settled⟩
  | none =>
      by_cases kept : (allowedReviewPosturesByLifecycle target).contains posture = true
      · exact ⟨posture, by simp only [kept, if_true], kept⟩
      · cases fallback : defaultTransitionPostures target with
        | some default_ =>
            refine ⟨default_, ?_, default_compatible fallback⟩
            simp only [kept, Bool.false_eq_true, if_false]
        | none =>
            have same := discovery_edge edge settled fallback
            rw [candidateStateIsCompatible, same] at compatible
            exact absurd compatible kept

theorem transitionCandidate_keepsState (candidate : IdeaCandidate)
    (targetStatus : IdeaLifecycleStatus) (updatedAtUtc : DateTime) :
    KeepsState (transitionCandidate candidate targetStatus updatedAtUtc) := by
  unfold transitionCandidate
  split
  · rename_i allowed
    obtain ⟨next, settled, compatible⟩ := reviewPostureForTransition_edge
      candidate.val.candidateId (List.contains_iff_mem.mp allowed) candidate.compatible
    rw [settled]
    exact create_keepsState compatible
  · exact .error fun state => state

/-! ## Reviews -/

section Reviews

/-- A review that sets the posture alone is taken where the status admits it. -/
theorem reviewed_compatible {action : ReviewAction} {status : IdeaLifecycleStatus}
    (reviewable : status ∈ reviewActionLifecycleStatuses action)
    (stays : action = .suppress ∨ action = .escalateToPm ∨ action = .escalateToCompliance) :
    candidateStateIsCompatible status (reviewActionPostures action) = true := by
  rcases stays with rfl | rfl | rfl <;> cases status <;>
    first | rfl | (revert reviewable; decide)

theorem reviewedByAdvisor_keepsState (candidate : IdeaCandidate) (acceptedAtUtc : DateTime) :
    KeepsState (reviewedByAdvisor candidate acceptedAtUtc) := by
  unfold reviewedByAdvisor
  split
  · exact transitionCandidate_keepsState _ _ _
  · exact .ok _
  · exact .error fun state => state

theorem evidenceReadyChecks_stateFree (candidate : IdeaCandidate) (acceptedAtUtc : DateTime) :
    StateFree (evidenceReadyChecks candidate acceptedAtUtc) := by
  simp [evidenceReadyChecks, invalidReviewAction, PyError.IsCandidateState]

theorem terminalReview_keepsState (candidate : IdeaCandidate) (action : ReviewAction) :
    KeepsState (validate [terminalReviewCheck candidate action]) :=
  validate_keepsState
    (by simp [terminalReviewCheck, invalidReviewAction, PyError.IsCandidateState])

/-- The status that a transition arrives at settles the posture. -/
theorem settled_keepsState {candidate moved : IdeaCandidate} {targetStatus : IdeaLifecycleStatus}
    {posture : ReviewPosture} {acceptedAtUtc : DateTime} {fields : IdeaCandidateFields}
    (run : transitionCandidate candidate targetStatus acceptedAtUtc = .ok moved)
    (settled : normalizedTransitionPostures targetStatus = some posture)
    (status : fields.lifecycleStatus = moved.val.lifecycleStatus)
    (own : fields.reviewPosture = posture) : KeepsState (IdeaCandidate.create fields) := by
  obtain ⟨_, _, arrived⟩ := transitionCandidate_returns run
  refine create_keepsState ?_
  rw [status, own, arrived]
  exact normalized_compatible settled

theorem candidateAfterReview_keepsState {candidate : IdeaCandidate}
    {command : ReviewDecisionCommand} (acceptedAtUtc : DateTime)
    (reviewable : candidate.val.lifecycleStatus ∈
      reviewActionLifecycleStatuses command.val.action) :
    KeepsState (candidateAfterReview candidate command acceptedAtUtc) := by
  unfold candidateAfterReview
  split <;> rename_i action <;> rw [action] at reviewable
  · refine .seq (validate_keepsState (evidenceReadyChecks_stateFree _ _)) fun _ _ => ?_
    refine .seq (reviewedByAdvisor_keepsState _ _) fun reviewed _ => ?_
    refine .seq (transitionCandidate_keepsState _ _ _) fun approved moved => ?_
    exact settled_keepsState moved rfl rfl rfl
  · refine .seq (terminalReview_keepsState _ _) fun _ _ => ?_
    refine .seq (transitionCandidate_keepsState _ _ _) fun rejected moved => ?_
    exact settled_keepsState moved rfl rfl rfl
  · refine .seq (terminalReview_keepsState _ _) fun _ _ => ?_
    refine .seq (transitionCandidate_keepsState _ _ _) fun closed moved => ?_
    exact settled_keepsState moved rfl rfl rfl
  · exact create_keepsState (reviewed_compatible reviewable (Or.inl rfl))
  · exact create_keepsState candidate.compatible
  · exact create_keepsState (reviewed_compatible reviewable (Or.inr (Or.inl rfl)))
  · exact create_keepsState (reviewed_compatible reviewable (Or.inr (Or.inr rfl)))

theorem reviewActorChecks_stateFree (candidate : IdeaCandidate) (command : ReviewDecisionCommand)
    (policy : ReviewActionPolicy) : StateFree (reviewActorChecks candidate command policy) := by
  simp [reviewActorChecks, actorScopeCheck, PyError.IsCandidateState]

theorem validateReviewPresentation_keepsState (command : ReviewDecisionCommand)
    (receipt : Option CandidatePresentationReceipt) (acceptedAtUtc : DateTime) :
    KeepsState (validateReviewPresentation command receipt acceptedAtUtc) := by
  unfold validateReviewPresentation
  split
  · split
    · exact .error fun state => state
    · exact .ok _
  · split
    · exact .error fun state => state
    · refine .seq (validate_keepsState ?_) fun _ _ => .ok _
      simp [workbenchPresentationChecks, requireUtc, PyError.IsCandidateState]

theorem governedReviewDecision_stateFree (d : GovernedReviewDecisionFields) :
    StateFree d.checks := by
  have optional : ∀ value fieldName,
      StateFree (GovernedReviewDecisionFields.optionalAware value fieldName) := by
    intro value fieldName
    exact harmless_elim fun t => by simp
  have presented : StateFree d.presentationChecks := by
    unfold GovernedReviewDecisionFields.presentationChecks
    split <;> simp
  simp [GovernedReviewDecisionFields.checks, GovernedReviewDecisionFields.entryChecks,
    CandidateEvidenceIdentityFields.checks, requirePositiveInteger, optional, presented]

theorem authorityGrant_keepsState (d : GovernedReviewDecision) : KeepsState d.authorityGrant := by
  unfold GovernedReviewDecision.authorityGrant
  split
  · exact .ok _
  · refine .map _ (Checked.make_avoids ?_)
    simp only [ReviewAuthorityGrantFields.checks, harmless_append, harmless_cons, harmless_nil]
    refine ⟨⟨by simp [requireUtc], harmless_elim fun t => by simp [requireUtc]⟩, ?_⟩
    unfold ReviewAuthorityGrantFields.presentationChecks
    split <;> simp

theorem applyReviewAction_keepsState [Sha256] (candidate : IdeaCandidate)
    (command : ReviewDecisionCommand) (acceptedAtUtc : DateTime)
    (receipt : Option CandidatePresentationReceipt) (policy : ReviewActionPolicy) :
    KeepsState (applyReviewAction candidate command acceptedAtUtc receipt policy) := by
  unfold applyReviewAction
  refine .seq (validate_keepsState ?_) fun _ allowed => ?_
  · simp [reviewAllowedChecks, reviewActorChecks_stateFree, expectedCandidateEvidenceCheck,
      invalidReviewAction, PyError.IsCandidateState]
  have passed := validate_eq_ok.mp allowed
  simp only [reviewAllowedChecks, firstFailure_cons, firstFailure_append, Bool.not_eq_false',
    List.contains_iff_mem] at passed
  refine .seq (validateReviewPresentation_keepsState _ _ _) fun digest _ => ?_
  refine .seq (validate_keepsState (by simp)) fun _ _ => ?_
  refine .seq (candidateAfterReview_keepsState acceptedAtUtc passed.1.2.2.1) fun updated _ => ?_
  refine .seq (Checked.make_avoids (governedReviewDecision_stateFree _)) fun decision _ => ?_
  refine .seq (authorityGrant_keepsState decision) fun grant _ => ?_
  exact .seq (auditEvent_keepsState _) fun auditEvent _ => .ok _

theorem recordFeedback_keepsState (candidate : IdeaCandidate) (command : FeedbackCommand)
    (acceptedAtUtc : DateTime) (policy : ReviewActionPolicy) :
    KeepsState (recordFeedback candidate command acceptedAtUtc policy) := by
  unfold recordFeedback
  refine .seq (validate_keepsState (by simp [actorScopeCheck, PyError.IsCandidateState]))
    fun _ _ => ?_
  refine .seq (Checked.make_avoids ?_) fun feedback _ => ?_
  · simp [IdeaFeedbackFields.checks, feedbackTaxonomyCheck, PyError.IsCandidateState]
  refine .seq (Checked.make_avoids (by simp [GovernedFeedbackEventFields.checks])) fun event _ => ?_
  exact .seq (auditEvent_keepsState _) fun auditEvent _ => .ok _

end Reviews

/-! ## Conversions and packs -/

section Conversions

theorem requestConversionIntent_keepsState [Sha256] (candidate : IdeaCandidate)
    (command : ConversionIntentCommand) (acceptedAtUtc : DateTime) (grant : ReviewAuthorityGrant) :
    KeepsState (requestConversionIntent candidate command acceptedAtUtc grant) := by
  unfold requestConversionIntent
  refine .seq (validate_keepsState ?_) fun _ _ => ?_
  · simp [conversionReadinessChecks, PyError.IsCandidateState]
  refine .seq ?_ fun _ _ => ?_
  · unfold ensureExactReviewAuthority
    refine .seq (validate_keepsState (by simp [PyError.IsCandidateState])) fun _ _ => ?_
    unfold ReviewAuthorityGrant.effectiveStatus
    refine .seq (.seq (validate_keepsState (by simp [requireUtc])) fun _ _ => .ok _)
      fun status _ => ?_
    exact validate_keepsState (by simp [PyError.IsCandidateState])
  refine .seq (Checked.make_avoids (by simp [IdeaConversionIntentFields.checks])) fun intent _ => ?_
  refine .seq (Checked.make_avoids ?_) fun governed _ => ?_
  · simp [GovernedConversionIntentFields.checks, GovernedConversionIntentFields.grantChecks]
  refine .seq (transitionCandidate_keepsState _ _ _) fun moved _ => ?_
  exact .seq (auditEvent_keepsState _) fun auditEvent _ => .ok _

theorem recordConversionOutcome_keepsState (intent : GovernedConversionIntent)
    (command : ConversionOutcomeCommand) (acceptedAtUtc : DateTime)
    (existing : List GovernedConversionOutcome) :
    KeepsState (recordConversionOutcome intent command acceptedAtUtc existing) := by
  unfold recordConversionOutcome
  refine .seq (validate_keepsState (by simp [PyError.IsCandidateState])) fun _ _ => ?_
  refine .seq (Checked.make_avoids (by simp [IdeaConversionOutcomeFields.checks]))
    fun outcome _ => ?_
  refine .seq (Checked.make_avoids (by simp [GovernedConversionOutcomeFields.checks]))
    fun governed _ => ?_
  split
  · exact .error fun state => state
  · exact .seq (auditEvent_keepsState _) fun auditEvent _ => .ok _

theorem requestReportEvidencePack_keepsState (candidate : IdeaCandidate)
    (intent : GovernedConversionIntent) (command : ReportEvidencePackCommand) :
    KeepsState (requestReportEvidencePack candidate intent command) := by
  unfold requestReportEvidencePack
  refine .seq (validate_keepsState ?_) fun _ _ => ?_
  · simp [reportEvidencePackChecks, PyError.IsCandidateState]
  refine .seq (Checked.make_avoids ?_) fun pack _ => ?_
  · simp [GovernedReportEvidencePackFields.checks, requireGovernedRetention]
  exact .seq (auditEvent_keepsState _) fun auditEvent _ => .ok _

end Conversions

/-! ## Reconciliations -/

section Reconciliations
variable (existing incoming : IdeaCandidate) (occurredAtUtc : DateTime)

theorem candidateIdentity_keepsState (i : CandidateIdentityFields) :
    KeepsState (Checked.make CandidateIdentityFields.checks i) := by
  refine Checked.make_avoids ?_
  simp only [CandidateIdentityFields.checks, harmless_append]
  exact ⟨by simp, harmless_elim fun version => by simp⟩

theorem refreshed_keepsState (identity : CandidateIdentity) :
    KeepsState (refreshed existing incoming identity occurredAtUtc) := by
  unfold refreshed evidenceRefreshReviewState
  split
  · rename_i approved
    refine create_keepsState ?_
    split at approved <;> cases approved
    · rfl
    · exact existing.compatible

theorem newMaterialVersion_keepsState (reason : CandidateChangeReason) :
    KeepsState (newMaterialVersion existing incoming occurredAtUtc reason) := by
  unfold newMaterialVersion
  refine .seq (candidateIdentity_keepsState _) fun identity _ => ?_
  exact create_keepsState incoming.compatible

theorem reconcileCandidate_keepsState (existingEvidenceHash incomingEvidenceHash : String) :
    KeepsState (reconcileCandidate existing incoming existingEvidenceHash incomingEvidenceHash
      occurredAtUtc) := by
  unfold reconcileCandidate
  split
  · exact .ok _
  split
  · split
    · exact .ok _
    · refine .seq ?_ fun candidate _ => .ok _
      exact .seq (candidateIdentity_keepsState _) fun _ _ => refreshed_keepsState _ _ _ _
  split
  · exact .ok _
  split
  · exact .ok _
  split
  · split
    · exact .seq (newMaterialVersion_keepsState _ _ _ _) fun candidate _ => .ok _
    · exact .seq (newMaterialVersion_keepsState _ _ _ _) fun candidate _ => .ok _
  · refine .seq ?_ fun candidate _ => .ok _
    exact .seq (candidateIdentity_keepsState _) fun _ _ => refreshed_keepsState _ _ _ _

end Reconciliations

end LotusIdea

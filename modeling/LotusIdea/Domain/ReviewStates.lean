import LotusIdea.Domain.CandidateReconciliation
import LotusIdea.Domain.ConversionGovernance

/-!
# The review state of a candidate

The posture and the suppression reason are set by different operations.  Each
lemma says what one operation makes of the two, and under which condition on the
candidate before it they still tell the same.
-/

set_option autoImplicit false

namespace LotusIdea

namespace IdeaCandidate

/-- A candidate is suppressed for a reason, or has neither. -/
def SuppressionConsistent (c : IdeaCandidate) : Prop :=
  c.val.suppressionReason.isSome = true ↔ c.val.reviewPosture = .suppressed

instance (c : IdeaCandidate) : Decidable c.SuppressionConsistent :=
  inferInstanceAs (Decidable (_ ↔ _))

theorem reviewPosture_of_equals {a b : IdeaCandidate} (same : a.equals b = true) :
    a.val.reviewPosture = b.val.reviewPosture :=
  congr_of_equals same (fun c => c.val.reviewPosture) fun _ => rfl

theorem suppressionReason_of_equals {a b : IdeaCandidate} (same : a.equals b = true) :
    a.val.suppressionReason = b.val.suppressionReason :=
  congr_of_equals same (fun c => c.val.suppressionReason) fun _ => rfl

theorem suppressionConsistent_of_equals {a b : IdeaCandidate} (same : a.equals b = true) :
    a.SuppressionConsistent ↔ b.SuppressionConsistent := by
  rw [SuppressionConsistent, SuppressionConsistent, reviewPosture_of_equals same,
    suppressionReason_of_equals same]

theorem suppressionConsistent_congr {old new : IdeaCandidate}
    (posture : new.val.reviewPosture = old.val.reviewPosture)
    (reason : new.val.suppressionReason = old.val.suppressionReason) :
    new.SuppressionConsistent ↔ old.SuppressionConsistent := by
  rw [SuppressionConsistent, SuppressionConsistent, posture, reason]

/-- A candidate that keeps its reason under another posture is consistent when it
had no reason, that is, when it was not suppressed. -/
theorem suppressionConsistent_of_kept {old new : IdeaCandidate}
    (consistent : old.SuppressionConsistent) (posture : new.val.reviewPosture ≠ .suppressed)
    (reason : new.val.suppressionReason = old.val.suppressionReason) :
    new.SuppressionConsistent ↔ old.val.reviewPosture ≠ .suppressed := by
  have before : old.val.suppressionReason.isSome = true ↔ old.val.reviewPosture = .suppressed :=
    consistent
  rw [SuppressionConsistent, reason, before]
  simp [posture]

/-- The constructor keeps each status to its postures. -/
theorem posture_of_approved {c : IdeaCandidate} (approved : c.val.lifecycleStatus = .approved) :
    c.val.reviewPosture = .approvedForConversion := by
  have valid := c.valid
  simp only [IdeaCandidateFields.checks, firstFailure_cons, candidateStateIsCompatible, approved,
    allowedReviewPosturesByLifecycle, Bool.not_eq_false', List.contains_iff_mem,
    List.mem_singleton] at valid
  exact valid.2.2.2.2.1

end IdeaCandidate

/-! ## Transitions -/

theorem normalizedTransitionPostures_not_suppressed {status : IdeaLifecycleStatus}
    {posture : ReviewPosture} (normalized : normalizedTransitionPostures status = some posture) :
    posture ≠ .suppressed := by
  cases status <;> cases normalized <;> decide

theorem transitionCandidate_reviewState {candidate moved : IdeaCandidate}
    {targetStatus : IdeaLifecycleStatus} {updatedAtUtc : DateTime}
    (run : transitionCandidate candidate targetStatus updatedAtUtc = .ok moved) :
    reviewPostureForTransition candidate.val.candidateId candidate.val.reviewPosture targetStatus =
        .ok moved.val.reviewPosture ∧
      moved.val.suppressionReason = candidate.val.suppressionReason := by
  simp only [transitionCandidate] at run
  split at run
  · obtain ⟨posture, settled, made⟩ := Except.seq_returns.mp run
    rw [Checked.make_eq_ok.mp made]
    exact ⟨settled, rfl⟩
  · cases run

/-- A transition that settles the posture leaves the reason of a suppressed
candidate behind; any other keeps a suppressed candidate suppressed. -/
theorem transitionCandidate_consistent {candidate moved : IdeaCandidate}
    {targetStatus : IdeaLifecycleStatus} {updatedAtUtc : DateTime}
    (run : transitionCandidate candidate targetStatus updatedAtUtc = .ok moved)
    (consistent : candidate.SuppressionConsistent) :
    moved.SuppressionConsistent ↔ ((normalizedTransitionPostures targetStatus).isSome = true →
      candidate.val.reviewPosture ≠ .suppressed) := by
  obtain ⟨settled, reason⟩ := transitionCandidate_reviewState run
  unfold reviewPostureForTransition at settled
  cases normal : normalizedTransitionPostures targetStatus with
  | some posture =>
      rw [normal] at settled
      cases settled
      have other := normalizedTransitionPostures_not_suppressed normal
      simpa using IdeaCandidate.suppressionConsistent_of_kept consistent other reason
  | none =>
      simp only [normal] at settled
      simp only [Option.isSome_none, Bool.false_eq_true, false_implies, iff_true]
      split at settled
      · have posture := Except.ok.inj settled
        exact (IdeaCandidate.suppressionConsistent_congr posture.symm reason).mpr consistent
      · rename_i outside
        -- only the transition to review replaces a posture, which was not `suppressed`
        have review : targetStatus = .readyForReview ∧
            ReviewPosture.advisorReviewRequired = moved.val.reviewPosture := by
          cases targetStatus <;> simp_all [defaultTransitionPostures]
        obtain ⟨rfl, posture⟩ := review
        have was : candidate.val.reviewPosture ≠ .suppressed := by
          intro suppressed
          simp [suppressed, allowedReviewPosturesByLifecycle] at outside
        have other : moved.val.reviewPosture ≠ .suppressed := by
          rw [← posture]
          decide
        exact (IdeaCandidate.suppressionConsistent_of_kept consistent other reason).mpr was

/-! ## Reviews -/

theorem candidateAfterReview_reviewState {candidate updated : IdeaCandidate}
    {command : ReviewDecisionCommand} {acceptedAtUtc : DateTime}
    (run : candidateAfterReview candidate command acceptedAtUtc = .ok updated) :
    updated.val.reviewPosture =
        (if command.val.action = .snooze then candidate.val.reviewPosture
        else reviewActionPostures command.val.action) ∧
      updated.val.suppressionReason =
        (if command.val.action = .suppress then command.val.suppressionReason
        else candidate.val.suppressionReason) := by
  unfold candidateAfterReview at run
  split at run <;> rename_i action <;> rw [action]
  · obtain ⟨_, _, run⟩ := Except.seq_returns.mp run
    obtain ⟨reviewed, first, run⟩ := Except.seq_returns.mp run
    obtain ⟨approved, second, run⟩ := Except.seq_returns.mp run
    rw [Checked.make_eq_ok.mp run]
    refine ⟨rfl, (transitionCandidate_reviewState second).2.trans ?_⟩
    unfold reviewedByAdvisor at first
    split at first
    · exact (transitionCandidate_reviewState first).2
    · cases first
      rfl
    · cases first
  · obtain ⟨_, _, run⟩ := Except.seq_returns.mp run
    obtain ⟨rejected, moved, run⟩ := Except.seq_returns.mp run
    rw [Checked.make_eq_ok.mp run]
    exact ⟨rfl, (transitionCandidate_reviewState moved).2⟩
  · obtain ⟨_, _, run⟩ := Except.seq_returns.mp run
    obtain ⟨closed, moved, run⟩ := Except.seq_returns.mp run
    rw [Checked.make_eq_ok.mp run]
    exact ⟨rfl, (transitionCandidate_reviewState moved).2⟩
  all_goals
    rw [Checked.make_eq_ok.mp run]
    exact ⟨rfl, rfl⟩

theorem ReviewDecisionCommand.suppressionReason_isSome {command : ReviewDecisionCommand}
    (suppresses : command.val.action = .suppress) :
    command.val.suppressionReason.isSome = true := by
  have valid := command.valid
  simp only [ReviewDecisionCommandFields.checks, firstFailure_append,
    ReviewDecisionCommandFields.actionFieldChecks, suppresses, firstFailure_cons, decide_true,
    Bool.true_and, Option.isNone_eq_false_iff] at valid
  exact valid.1.2.1

theorem reviewActionPostures_suppressed {action : ReviewAction}
    (posture : reviewActionPostures action = .suppressed) : action = .suppress := by
  cases action <;> first | rfl | cases posture

/-- A suppression sets both, a snooze neither; every other action sets the posture
alone. -/
theorem candidateAfterReview_consistent {candidate updated : IdeaCandidate}
    {command : ReviewDecisionCommand} {acceptedAtUtc : DateTime}
    (run : candidateAfterReview candidate command acceptedAtUtc = .ok updated)
    (consistent : candidate.SuppressionConsistent) :
    updated.SuppressionConsistent ↔
      (command.val.action ≠ .suppress → command.val.action ≠ .snooze →
        candidate.val.reviewPosture ≠ .suppressed) := by
  obtain ⟨posture, reason⟩ := candidateAfterReview_reviewState run
  by_cases suppresses : command.val.action = .suppress
  · have given := ReviewDecisionCommand.suppressionReason_isSome suppresses
    simp only [IdeaCandidate.SuppressionConsistent, posture, reason, suppresses, given, if_true,
      reviewActionPostures, reduceCtorEq, if_false, ne_eq, not_true, false_implies]
  · rw [if_neg suppresses] at reason
    by_cases snoozes : command.val.action = .snooze
    · rw [if_pos snoozes] at posture
      simp only [IdeaCandidate.suppressionConsistent_congr posture reason, consistent, snoozes,
        ne_eq, not_true, false_implies, implies_true]
    · rw [if_neg snoozes] at posture
      have other : updated.val.reviewPosture ≠ .suppressed := by
        intro same
        exact suppresses (reviewActionPostures_suppressed (posture.symm.trans same))
      rw [IdeaCandidate.suppressionConsistent_of_kept consistent other reason]
      exact ⟨fun was _ _ => was, fun was => was suppresses snoozes⟩

section
variable [Sha256]

/-- What a review leaves of its candidate and its command. -/
structure ReviewRecorded (candidate : IdeaCandidate) (command : ReviewDecisionCommand)
    (acceptedAtUtc : DateTime) (result : ReviewActionResult) : Prop where
  sourceCandidate : result.sourceCandidate = candidate
  updated : candidateAfterReview candidate command acceptedAtUtc = .ok result.candidate
  action : result.decision.val.action = command.val.action
  resultingPosture : result.decision.val.resultingPosture = reviewActionPostures command.val.action
  audited : reviewAuditEvent result.decision candidate result.candidate = .ok result.auditEvent

theorem applyReviewAction_recorded {candidate : IdeaCandidate} {command : ReviewDecisionCommand}
    {acceptedAtUtc : DateTime} {receipt : Option CandidatePresentationReceipt}
    {policy : ReviewActionPolicy} {result : ReviewActionResult}
    (run : applyReviewAction candidate command acceptedAtUtc receipt policy = .ok result) :
    ReviewRecorded candidate command acceptedAtUtc result := by
  simp only [applyReviewAction] at run
  obtain ⟨_, _, run⟩ := Except.seq_returns.mp run
  obtain ⟨digest, _, run⟩ := Except.seq_returns.mp run
  obtain ⟨_, _, run⟩ := Except.seq_returns.mp run
  obtain ⟨updated, moved, run⟩ := Except.seq_returns.mp run
  obtain ⟨decision, made, run⟩ := Except.seq_returns.mp run
  obtain ⟨grant, _, run⟩ := Except.seq_returns.mp run
  obtain ⟨auditEvent, audited, run⟩ := Except.seq_returns.mp run
  cases run
  have fields := Checked.make_eq_ok.mp made
  exact ⟨rfl, moved, by rw [fields]; rfl, by rw [fields]; rfl, audited⟩

/-- A conversion transitions an approved candidate. -/
theorem requestConversionIntent_moves {candidate : IdeaCandidate}
    {command : ConversionIntentCommand} {acceptedAtUtc : DateTime} {grant : ReviewAuthorityGrant}
    {result : ConversionIntentResult}
    (run : requestConversionIntent candidate command acceptedAtUtc grant = .ok result) :
    transitionCandidate candidate (targetLifecycleStatus command.val.target) acceptedAtUtc =
      .ok result.candidate := by
  simp only [requestConversionIntent] at run
  obtain ⟨_, _, run⟩ := Except.seq_returns.mp run
  obtain ⟨_, _, run⟩ := Except.seq_returns.mp run
  obtain ⟨intent, _, run⟩ := Except.seq_returns.mp run
  obtain ⟨governed, _, run⟩ := Except.seq_returns.mp run
  obtain ⟨moved, transition, run⟩ := Except.seq_returns.mp run
  obtain ⟨audit, _, run⟩ := Except.seq_returns.mp run
  cases run
  exact transition

end

/-! ## Reconciliations -/

/-- The incoming condition becomes a new material version, whose posture it brings
along. -/
def startsMaterialVersion (existing incoming : IdeaCandidate) : Bool :=
  existing.val.identity.val.policyVersion = incoming.val.identity.val.policyVersion &&
    materialChanged existing incoming

theorem refreshed_consistent {existing incoming next : IdeaCandidate}
    {identity : CandidateIdentity} {occurredAtUtc : DateTime}
    (run : refreshed existing incoming identity occurredAtUtc = .ok next)
    (consistent : existing.SuppressionConsistent) : next.SuppressionConsistent := by
  by_cases approved : existing.val.lifecycleStatus = .approved
  · simp only [refreshed, evidenceRefreshReviewState, if_pos approved] at run
    rw [IdeaCandidate.SuppressionConsistent, Checked.make_eq_ok.mp run]
    simp
  · simp only [refreshed, evidenceRefreshReviewState, if_neg approved] at run
    rw [IdeaCandidate.SuppressionConsistent, Checked.make_eq_ok.mp run]
    exact consistent

theorem newMaterialVersion_consistent {existing incoming next : IdeaCandidate}
    {occurredAtUtc : DateTime} {reason : CandidateChangeReason}
    (run : newMaterialVersion existing incoming occurredAtUtc reason = .ok next) :
    next.SuppressionConsistent ↔ incoming.val.reviewPosture ≠ .suppressed := by
  simp only [newMaterialVersion] at run
  obtain ⟨identity, _, run⟩ := Except.seq_returns.mp run
  rw [IdeaCandidate.SuppressionConsistent, Checked.make_eq_ok.mp run]
  simp

/-- How a reconciliation made the candidate that it returns: from the stored review
state, or as a material version that brings its own. -/
inductive ReconciledAs (existing incoming : IdeaCandidate) (occurredAtUtc : DateTime)
    (next : IdeaCandidate) : Prop where
  | refreshed (identity : CandidateIdentity)
      (stays : startsMaterialVersion existing incoming = false)
      (made : refreshed existing incoming identity occurredAtUtc = .ok next)
  | renewed (reason : CandidateChangeReason)
      (starts : startsMaterialVersion existing incoming = true)
      (made : newMaterialVersion existing incoming occurredAtUtc reason = .ok next)

theorem reconcileCandidate_reconciled {existing incoming next : IdeaCandidate}
    {existingEvidenceHash incomingEvidenceHash : String} {occurredAtUtc : DateTime}
    {result : CandidateReconciliation}
    (run : reconcileCandidate existing incoming existingEvidenceHash incomingEvidenceHash
      occurredAtUtc = .ok result) (held : result.candidate = some next) :
    ReconciledAs existing incoming occurredAtUtc next := by
  unfold reconcileCandidate at run
  split at run
  · cases run
    cases held
  split at run
  · rename_i other
    have stays : startsMaterialVersion existing incoming = false := by
      simp [startsMaterialVersion, other]
    split at run
    · cases run
      cases held
    · obtain ⟨candidate, made, run⟩ := Except.seq_returns.mp run
      cases run
      cases held
      simp only [backfillIdentityPolicy] at made
      obtain ⟨identity, _, made⟩ := Except.seq_returns.mp made
      exact .refreshed identity stays made
  rename_i samePolicy
  rw [not_not] at samePolicy
  split at run
  · cases run
    cases held
  split at run
  · cases run
    cases held
  split at run
  · rename_i changed
    have starts : startsMaterialVersion existing incoming = true := by
      simp [startsMaterialVersion, samePolicy, changed]
    split at run
    all_goals
      obtain ⟨candidate, made, run⟩ := Except.seq_returns.mp run
      cases run
      cases held
      exact .renewed _ starts made
  · rename_i unchanged
    have stays : startsMaterialVersion existing incoming = false := by
      simp [startsMaterialVersion, samePolicy, unchanged]
    obtain ⟨candidate, made, run⟩ := Except.seq_returns.mp run
    cases run
    cases held
    simp only [refreshEvidence] at made
    obtain ⟨identity, _, made⟩ := Except.seq_returns.mp made
    exact .refreshed identity stays made

theorem reconcileCandidate_consistent {existing incoming next : IdeaCandidate}
    {existingEvidenceHash incomingEvidenceHash : String} {occurredAtUtc : DateTime}
    {result : CandidateReconciliation}
    (run : reconcileCandidate existing incoming existingEvidenceHash incomingEvidenceHash
      occurredAtUtc = .ok result) (held : result.candidate = some next)
    (consistent : existing.SuppressionConsistent) :
    next.SuppressionConsistent ↔
      (startsMaterialVersion existing incoming = true →
        incoming.val.reviewPosture ≠ .suppressed) := by
  cases reconcileCandidate_reconciled run held with
  | refreshed identity stays made => simp [stays, refreshed_consistent made consistent]
  | renewed reason starts made => simp [starts, newMaterialVersion_consistent made]

end LotusIdea

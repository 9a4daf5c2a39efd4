import LotusIdea.Domain.ReviewStates
import LotusIdea.Repository.RevokedAuthority

/-!
# What a reconciliation may change

A reconciliation builds its candidate on one of three paths: a policy upgrade, a
correction of the evidence, or a new material version.  The frame names what each of
them may touch.  Two fields step outside it: the expiry that a policy upgrade takes
over from the incoming evidence, and the suppression reason that a new material
version drops.
-/

set_option autoImplicit false

namespace LotusIdea

/-! ## The paths -/

/-- The path on which a reconciliation made its candidate, with the guards that it
passed. -/
inductive MadeBy (existing incoming : IdeaCandidate) (occurredAtUtc : DateTime)
    (next : IdeaCandidate) : Prop where
  | backfilled
      (upgrade : existing.val.identity.val.policyVersion ≠ incoming.val.identity.val.policyVersion)
      (made : backfillIdentityPolicy existing incoming occurredAtUtc = .ok next)
  | corrected
      (onePolicy : existing.val.identity.val.policyVersion =
        incoming.val.identity.val.policyVersion)
      (unchanged : materialChanged existing incoming = false)
      (bounded : expiryChanged existing incoming = false)
      (made : refreshEvidence existing incoming occurredAtUtc = .ok next)
  | renewed (reason : CandidateChangeReason)
      (onePolicy : existing.val.identity.val.policyVersion =
        incoming.val.identity.val.policyVersion)
      (changed : materialChanged existing incoming = true)
      (made : newMaterialVersion existing incoming occurredAtUtc reason = .ok next)

section
variable {existing incoming next : IdeaCandidate} {occurredAtUtc : DateTime}

theorem reconcileCandidate_made {existingEvidenceHash incomingEvidenceHash : String}
    {result : CandidateReconciliation}
    (run : reconcileCandidate existing incoming existingEvidenceHash incomingEvidenceHash
      occurredAtUtc = .ok result) (held : result.candidate = some next) :
    sameBusinessScope existing incoming = true ∧
      MadeBy existing incoming occurredAtUtc next := by
  unfold reconcileCandidate at run
  split at run
  · cases run
    cases held
  rename_i shared
  refine ⟨by simpa using shared, ?_⟩
  split at run
  · rename_i upgrade
    split at run
    · cases run
      cases held
    · obtain ⟨candidate, made, run⟩ := Except.seq_returns.mp run
      cases run
      cases held
      exact .backfilled upgrade made
  rename_i onePolicy
  rw [not_not] at onePolicy
  split at run
  · cases run
    cases held
  rename_i guarded
  split at run
  · cases run
    cases held
  split at run
  · rename_i changed
    split at run
    all_goals
      obtain ⟨candidate, made, run⟩ := Except.seq_returns.mp run
      cases run
      cases held
      exact .renewed _ onePolicy changed made
  · rename_i unchanged
    have same : materialChanged existing incoming = false := by simpa using unchanged
    obtain ⟨candidate, made, run⟩ := Except.seq_returns.mp run
    cases run
    cases held
    exact .corrected onePolicy same (by simpa [same] using guarded) made

/-! ## Versions and fields of each path -/

/-- The identity is one evidence version on, under the same material version. -/
theorem MadeBy.refreshes (made : MadeBy existing incoming occurredAtUtc next)
    (stays : startsMaterialVersion existing incoming = false) :
    ∃ identity : CandidateIdentity,
      refreshed existing incoming identity occurredAtUtc = .ok next ∧
      identity.val.businessIdentityId ∈ [existing.val.identity.val.businessIdentityId,
        incoming.val.identity.val.businessIdentityId] ∧
      identity.val.materialVersion = existing.val.identity.val.materialVersion ∧
      identity.val.evidenceVersion = existing.val.identity.val.evidenceVersion + 1 := by
  cases made with
  | backfilled upgrade made =>
      simp only [backfillIdentityPolicy] at made
      obtain ⟨identity, settled, made⟩ := Except.seq_returns.mp made
      refine ⟨identity, made, ?_⟩
      rw [Checked.make_eq_ok.mp settled]
      simp
  | corrected onePolicy unchanged bounded made =>
      simp only [refreshEvidence] at made
      obtain ⟨identity, settled, made⟩ := Except.seq_returns.mp made
      refine ⟨identity, made, ?_⟩
      rw [Checked.make_eq_ok.mp settled]
      simp
  | renewed reason onePolicy changed made =>
      rw [startsMaterialVersion, decide_eq_true onePolicy, changed] at stays
      cases stays

theorem MadeBy.renews (made : MadeBy existing incoming occurredAtUtc next)
    (starts : startsMaterialVersion existing incoming = true) :
    ∃ reason, newMaterialVersion existing incoming occurredAtUtc reason = .ok next := by
  simp only [startsMaterialVersion, Bool.and_eq_true, decide_eq_true_eq] at starts
  cases made with
  | backfilled upgrade made => exact absurd starts.1 upgrade
  | corrected onePolicy unchanged bounded made =>
      rw [unchanged] at starts
      cases starts.2
  | renewed reason onePolicy changed made => exact ⟨reason, made⟩

/-! ## The frame -/

namespace IdeaCandidate

/-- Status, posture and suppression reason. -/
def reviewState (c : IdeaCandidate) :
    IdeaLifecycleStatus × ReviewPosture × Option SuppressionReason :=
  (c.val.lifecycleStatus, c.val.reviewPosture, c.val.suppressionReason)

def materialVersion (c : IdeaCandidate) : Int := c.val.identity.val.materialVersion

def evidenceVersion (c : IdeaCandidate) : Int := c.val.identity.val.evidenceVersion

end IdeaCandidate

/-- The next evidence version, or the first one of the next material version. -/
def SingleStep (existing next : IdeaCandidate) : Prop :=
  (next.materialVersion = existing.materialVersion ∧
      next.evidenceVersion = existing.evidenceVersion + 1) ∨
    (next.materialVersion = existing.materialVersion + 1 ∧ next.evidenceVersion = 1)

/-- What a reconciliation may change of the existing candidate. -/
structure ReconciliationFrame (existing incoming next : IdeaCandidate) : Prop where
  createdAtUtc : next.val.createdAtUtc = existing.val.createdAtUtc
  candidateId : next.val.candidateId = existing.val.candidateId
  businessIdentityId : next.val.identity.val.businessIdentityId =
    existing.val.identity.val.businessIdentityId
  family : next.val.family = existing.val.family
  accessScope : next.val.accessScope = existing.val.accessScope
  version : SingleStep existing next ∧ existing.version < next.version
  renewedState : next.materialVersion = existing.materialVersion + 1 →
    next.reviewState = incoming.reviewState
  refreshedState : next.materialVersion = existing.materialVersion →
    (existing.val.lifecycleStatus = .approved →
      next.val.lifecycleStatus = .readyForReview ∧
        next.val.reviewPosture = .advisorReviewRequired) ∧
    (existing.val.lifecycleStatus ≠ .approved → next.reviewState = existing.reviewState)
  expiry : expiryChanged existing next = true →
    next.materialVersion = existing.materialVersion + 1
  material : existing.val.identity.val.policyVersion = incoming.val.identity.val.policyVersion →
    (materialChanged existing incoming = true ↔
      next.materialVersion = existing.materialVersion + 1)

/-- The condition: a policy upgrade does not move the expiry, and what becomes a new
material version carries no suppression reason. -/
def StaysInFrame (existing incoming : IdeaCandidate) : Prop :=
  (existing.val.identity.val.policyVersion ≠ incoming.val.identity.val.policyVersion →
    expiryChanged existing incoming = false) ∧
  (startsMaterialVersion existing incoming = true → incoming.val.suppressionReason = none)

theorem businessIdentityId_of_shared (shared : sameBusinessScope existing incoming = true) :
    incoming.val.identity.val.businessIdentityId =
      existing.val.identity.val.businessIdentityId ∧
    incoming.val.family = existing.val.family := by
  simp only [sameBusinessScope, Bool.and_eq_true, decide_eq_true_eq] at shared
  exact ⟨shared.1.1.2, shared.1.2⟩

theorem refreshed_reviewState {identity : CandidateIdentity}
    (run : refreshed existing incoming identity occurredAtUtc = .ok next) :
    next.reviewState = evidenceRefreshReviewState existing := by
  rw [IdeaCandidate.reviewState, Checked.make_eq_ok.mp run]
  rfl

/-- Under the same material version the frame is left by the expiry alone. -/
theorem refreshed_frame (shared : sameBusinessScope existing incoming = true)
    (made : MadeBy existing incoming occurredAtUtc next) (later : existing.version < next.version)
    (stays : startsMaterialVersion existing incoming = false) :
    ReconciliationFrame existing incoming next ↔ expiryChanged existing incoming = false := by
  obtain ⟨identity, run, business, material, evidence⟩ := made.refreshes stays
  obtain ⟨ownId, ownScope⟩ := sameBusinessScope_keeps shared
  obtain ⟨ownBusiness, ownFamily⟩ := businessIdentityId_of_shared shared
  have state := refreshed_reviewState run
  have fields := Checked.make_eq_ok.mp run
  have same : next.materialVersion = existing.materialVersion := by
    rw [IdeaCandidate.materialVersion, fields]
    exact material
  have notRenewed : next.materialVersion ≠ existing.materialVersion + 1 := by omega
  have expiry : expiryChanged existing next = expiryChanged existing incoming := by
    rw [expiryChanged, fields]
    rfl
  constructor
  · intro frame
    rw [← expiry, Bool.eq_false_iff]
    exact fun moved => notRenewed (frame.expiry moved)
  · intro bounded
    constructor
    · rw [fields]
    · rw [fields, ownId]
    · rw [fields]
      simpa [ownBusiness] using business
    · rw [fields]
      exact ownFamily
    · rw [fields, ownScope]
    · refine ⟨Or.inl ⟨same, ?_⟩, later⟩
      rw [IdeaCandidate.evidenceVersion, fields]
      exact evidence
    · intro renewed
      exact absurd renewed notRenewed
    · intro _
      constructor
      · intro approved
        rw [IdeaCandidate.reviewState, evidenceRefreshReviewState, if_pos approved] at state
        simp only [Prod.mk.injEq] at state
        exact ⟨state.1, state.2.1⟩
      · intro other
        rw [state, evidenceRefreshReviewState, if_neg other]
        rfl
    · intro moved
      rw [expiry, bounded] at moved
      cases moved
    · intro onePolicy
      refine iff_of_false ?_ notRenewed
      intro changed
      rw [startsMaterialVersion, decide_eq_true onePolicy, changed] at stays
      cases stays

/-- A new material version leaves the frame by the suppression reason alone. -/
theorem renewed_frame (shared : sameBusinessScope existing incoming = true)
    (made : MadeBy existing incoming occurredAtUtc next) (later : existing.version < next.version)
    (starts : startsMaterialVersion existing incoming = true) :
    ReconciliationFrame existing incoming next ↔ incoming.val.suppressionReason = none := by
  obtain ⟨reason, run⟩ := made.renews starts
  obtain ⟨ownId, ownScope⟩ := sameBusinessScope_keeps shared
  obtain ⟨_, ownFamily⟩ := businessIdentityId_of_shared shared
  simp only [newMaterialVersion] at run
  obtain ⟨identity, settled, run⟩ := Except.seq_returns.mp run
  have identityFields := Checked.make_eq_ok.mp settled
  have fields := Checked.make_eq_ok.mp run
  have renewed : next.materialVersion = existing.materialVersion + 1 := by
    rw [IdeaCandidate.materialVersion, fields]
    simp only [identityFields]
    rfl
  have state : next.reviewState =
      (incoming.val.lifecycleStatus, incoming.val.reviewPosture, none) := by
    rw [IdeaCandidate.reviewState, fields]
  constructor
  · intro frame
    have taken := frame.renewedState renewed
    rw [state, IdeaCandidate.reviewState] at taken
    simp only [Prod.mk.injEq] at taken
    exact taken.2.2.symm
  · intro unsuppressed
    constructor
    · rw [fields]
    · rw [fields, ownId]
    · rw [fields]
      simp only [identityFields]
    · rw [fields]
      exact ownFamily
    · rw [fields, ownScope]
    · refine ⟨Or.inr ⟨renewed, ?_⟩, later⟩
      rw [IdeaCandidate.evidenceVersion, fields]
      simp only [identityFields]
    · intro _
      rw [state, IdeaCandidate.reviewState, unsuppressed]
    · intro same
      omega
    · intro _
      exact renewed
    · intro _
      simp only [startsMaterialVersion, Bool.and_eq_true] at starts
      exact iff_of_true starts.2 renewed

end

/-- A reconciliation that returns a candidate keeps to the frame exactly when it is
no policy upgrade that moves the expiry, and no new material version of an incoming
candidate that carries a suppression reason. -/
theorem reconcileCandidate_frame_iff (existing incoming : IdeaCandidate)
    (existingEvidenceHash incomingEvidenceHash : String) (occurredAtUtc : DateTime)
    (result : CandidateReconciliation) (next : IdeaCandidate)
    (run : reconcileCandidate existing incoming existingEvidenceHash incomingEvidenceHash
      occurredAtUtc = .ok result) (held : result.candidate = some next) :
    ReconciliationFrame existing incoming next ↔ StaysInFrame existing incoming := by
  obtain ⟨shared, made⟩ := reconcileCandidate_made run held
  have later : existing.version < next.version := by
    rcases reconcileCandidate_cases run with rfl | rfl | ⟨other, isOther, _, grows, _⟩
    · cases held
    · cases held
    · rw [held] at isOther
      cases isOther
      exact grows.later
  cases starts : startsMaterialVersion existing incoming with
  | true =>
      rw [renewed_frame shared made later starts, StaysInFrame]
      simp only [startsMaterialVersion, Bool.and_eq_true, decide_eq_true_eq] at starts
      simp [startsMaterialVersion, starts.1, starts.2]
  | false =>
      rw [refreshed_frame shared made later starts, StaysInFrame, starts]
      cases made with
      | backfilled upgrade _ => simp [upgrade]
      | corrected onePolicy _ bounded _ => simp [onePolicy, bounded]
      | renewed _ onePolicy changed _ =>
          rw [startsMaterialVersion, decide_eq_true onePolicy, changed] at starts
          cases starts

/-! ## A policy upgrade that moves the expiry -/

/-- The sample's evidence, as far as it applies until `expiry`. -/
def sampleBoundedPacket : IdeaEvidencePacket where
  val := { sampleEvidencePacket.val with applicabilityExpiresAtUtc := some (.utc 100) }
  valid := by decide +kernel

def samplePriorIdentity : CandidateIdentity where
  val := { (sampleIdentity false).val with policyVersion := previousOpportunityIdentityPolicyVersion }
  valid := by decide +kernel

/-- The sample candidate under the previous identity policy, on evidence that expires. -/
def samplePrevious : IdeaCandidate where
  val :=
    { (sampleCandidate false).val with
      identity := samplePriorIdentity
      evidencePacket := sampleBoundedPacket }
  valid := by decide +kernel

def sampleReconciled (existing incoming : IdeaCandidate) : Option IdeaCandidate :=
  (reconcileCandidate existing incoming (sampleDigest 'a') (sampleDigest 'b')
    (.utc 10)).toOption.bind CandidateReconciliation.candidate

theorem sampleReconciled_returns {existing incoming next : IdeaCandidate}
    (made : sampleReconciled existing incoming = some next) :
    ∃ result, reconcileCandidate existing incoming (sampleDigest 'a') (sampleDigest 'b')
      (.utc 10) = .ok result ∧ result.candidate = some next := by
  unfold sampleReconciled at made
  cases ran : reconcileCandidate existing incoming (sampleDigest 'a') (sampleDigest 'b')
      (.utc 10) with
  | error raised =>
      rw [ran] at made
      cases made
  | ok result =>
      rw [ran] at made
      exact ⟨result, rfl, made⟩

theorem sampleUpgrade_moves :
    (sampleReconciled samplePrevious (sampleCandidate false)).any
      (fun next => expiryChanged samplePrevious next &&
        next.materialVersion = samplePrevious.materialVersion) = true := by
  decide +kernel

/-- The upgrade of the identity policy takes the expiry away and keeps the material
version. -/
theorem upgrade_moves_expiry : ∃ result next,
    reconcileCandidate samplePrevious (sampleCandidate false) (sampleDigest 'a')
      (sampleDigest 'b') (.utc 10) = .ok result ∧ result.candidate = some next ∧
    ¬ ReconciliationFrame samplePrevious (sampleCandidate false) next := by
  obtain ⟨next, made, moves⟩ := (Option.any_eq_true _ _).mp sampleUpgrade_moves
  obtain ⟨result, run, held⟩ := sampleReconciled_returns made
  refine ⟨result, next, run, held, ?_⟩
  simp only [Bool.and_eq_true, decide_eq_true_eq] at moves
  intro frame
  have renewed := frame.expiry moves.1
  omega

theorem sampleRenewal_returns :
    (sampleReconciled (sampleCandidate false) (sampleCandidate true)).isSome = true := by
  decide +kernel

/-- A material change keeps to the frame. -/
theorem reconcileCandidate_frame_iff_sample : ∃ next,
    sampleReconciled (sampleCandidate false) (sampleCandidate true) = some next ∧
    ReconciliationFrame (sampleCandidate false) (sampleCandidate true) next := by
  obtain ⟨next, made⟩ := Option.isSome_iff_exists.mp sampleRenewal_returns
  obtain ⟨result, run, held⟩ := sampleReconciled_returns made
  refine ⟨next, made, (reconcileCandidate_frame_iff _ _ _ _ _ result next run held).mpr ?_⟩
  exact ⟨fun upgrade => absurd rfl upgrade, fun _ => rfl⟩

end LotusIdea

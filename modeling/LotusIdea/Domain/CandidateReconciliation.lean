import LotusIdea.Domain.ReviewGovernance

/-!
# Reconciling a detected candidate with the stored one

`candidate_reconciliation.py`: a condition that is detected again is refused,
found unchanged, or becomes the next evidence or material version of the
candidate.
-/

set_option autoImplicit false

namespace LotusIdea

/-- The decision enumerations of `persistence_models.py` in one: their members
share their texts. -/
inductive PersistenceDecision where
  | accepted
  | evidenceRefreshed
  | materialVersionCreated
  | recurrentConditionReopened
  | replayed
  | conflict
  | identityConflict
  | duplicateCandidate
  | outcomeConflict
  | notFound
  deriving DecidableEq, Repr

def previousOpportunityIdentityPolicyVersion : String := "idea-opportunity-identity-v2"

def opportunityIdentityPolicyVersion : String := "idea-opportunity-identity-v3"

def reopenableTerminalStatuses : List IdeaLifecycleStatus :=
  [.accepted, .rejected, .expired, .executed, .closed]

structure CandidateReconciliation where
  decision : PersistenceDecision
  candidate : Option IdeaCandidate

/-- `_same_business_scope`. -/
def sameBusinessScope (existing incoming : IdeaCandidate) : Bool :=
  incoming.val.candidateId = existing.val.candidateId &&
    incoming.val.identity.val.businessIdentityId = existing.val.identity.val.businessIdentityId &&
    incoming.val.family = existing.val.family &&
    incoming.val.accessScope = existing.val.accessScope

/-- `_is_supported_policy_upgrade`. -/
def isSupportedPolicyUpgrade (existing incoming : IdeaCandidate) : Bool :=
  existing.val.identity.val.policyVersion = previousOpportunityIdentityPolicyVersion &&
    incoming.val.identity.val.policyVersion = opportunityIdentityPolicyVersion

/-- `_evidence_refresh_review_state`: new evidence takes an approval back. -/
def evidenceRefreshReviewState (existing : IdeaCandidate) :
    IdeaLifecycleStatus × ReviewPosture × Option SuppressionReason :=
  if existing.val.lifecycleStatus = .approved then
    (.readyForReview, .advisorReviewRequired, none)
  else
    (existing.val.lifecycleStatus, existing.val.reviewPosture, existing.val.suppressionReason)

/-- The incoming candidate under a settled identity and review state. -/
def refreshed (existing incoming : IdeaCandidate) (identity : CandidateIdentity)
    (occurredAtUtc : DateTime) : Except PyError IdeaCandidate :=
  let (lifecycleStatus, reviewPosture, suppressionReason) := evidenceRefreshReviewState existing
  IdeaCandidate.create
    { incoming.val with
      identity := identity
      lifecycleStatus := lifecycleStatus
      reviewPosture := reviewPosture
      suppressionReason := suppressionReason
      createdAtUtc := existing.val.createdAtUtc
      updatedAtUtc := DateTime.later existing.val.updatedAtUtc occurredAtUtc }

/-- `_backfill_identity_policy`. -/
def backfillIdentityPolicy (existing incoming : IdeaCandidate) (occurredAtUtc : DateTime) :
    Except PyError IdeaCandidate := do
  let identity ← Checked.make CandidateIdentityFields.checks
    { incoming.val.identity.val with
      materialVersion := existing.val.identity.val.materialVersion
      evidenceVersion := existing.val.identity.val.evidenceVersion + 1
      changeReason := .migrationBackfill
      supersedesMaterialVersion := existing.val.identity.val.supersedesMaterialVersion }
  refreshed existing incoming identity occurredAtUtc

/-- The branch of corrected evidence. -/
def refreshEvidence (existing incoming : IdeaCandidate) (occurredAtUtc : DateTime) :
    Except PyError IdeaCandidate := do
  let identity ← Checked.make CandidateIdentityFields.checks
    { existing.val.identity.val with
      evidenceVersion := existing.val.identity.val.evidenceVersion + 1
      changeReason := .evidenceCorrection
      supersedesMaterialVersion := none }
  refreshed existing incoming identity occurredAtUtc

/-- `_new_material_version`. -/
def newMaterialVersion (existing incoming : IdeaCandidate) (occurredAtUtc : DateTime)
    (reason : CandidateChangeReason) : Except PyError IdeaCandidate := do
  let identity ← Checked.make CandidateIdentityFields.checks
    { businessIdentityId := existing.val.identity.val.businessIdentityId
      policyVersion := existing.val.identity.val.policyVersion
      materialFingerprint := incoming.val.identity.val.materialFingerprint
      materialVersion := existing.val.identity.val.materialVersion + 1
      evidenceVersion := 1
      changeReason := reason
      supersedesMaterialVersion := some existing.val.identity.val.materialVersion }
  IdeaCandidate.create
    { incoming.val with
      identity := identity
      suppressionReason := none
      createdAtUtc := existing.val.createdAtUtc
      updatedAtUtc := DateTime.later existing.val.updatedAtUtc occurredAtUtc }

def materialChanged (existing incoming : IdeaCandidate) : Bool :=
  incoming.val.identity.val.materialFingerprint != existing.val.identity.val.materialFingerprint

def expiryChanged (existing incoming : IdeaCandidate) : Bool :=
  incoming.val.evidencePacket.val.applicabilityExpiresAtUtc.map DateTime.inUtc !=
    existing.val.evidencePacket.val.applicabilityExpiresAtUtc.map DateTime.inUtc

def reconcileCandidate (existing incoming : IdeaCandidate)
    (existingEvidenceHash incomingEvidenceHash : String) (occurredAtUtc : DateTime) :
    Except PyError CandidateReconciliation :=
  if !sameBusinessScope existing incoming then .ok ⟨.identityConflict, none⟩
  else if existing.val.identity.val.policyVersion ≠ incoming.val.identity.val.policyVersion then
    if !isSupportedPolicyUpgrade existing incoming then .ok ⟨.identityConflict, none⟩
    else do
      let candidate ← backfillIdentityPolicy existing incoming occurredAtUtc
      return ⟨.evidenceRefreshed, some candidate⟩
  else if !materialChanged existing incoming && expiryChanged existing incoming then
    .ok ⟨.identityConflict, none⟩
  else if !materialChanged existing incoming && incomingEvidenceHash = existingEvidenceHash then
    .ok ⟨.duplicateCandidate, none⟩
  else if materialChanged existing incoming then
    if reopenableTerminalStatuses.contains existing.val.lifecycleStatus then do
      let candidate ← newMaterialVersion existing incoming occurredAtUtc .recurrentCondition
      return ⟨.recurrentConditionReopened, some candidate⟩
    else do
      let candidate ← newMaterialVersion existing incoming occurredAtUtc .materialChange
      return ⟨.materialVersionCreated, some candidate⟩
  else do
    let candidate ← refreshEvidence existing incoming occurredAtUtc
    return ⟨.evidenceRefreshed, some candidate⟩

/-! ## Every reconciled candidate is a later version -/

/-- What a reconciliation keeps, and that it moves the version up. -/
structure NextVersion (existing next : IdeaCandidate) : Prop where
  candidateId : next.val.candidateId = existing.val.candidateId
  accessScope : next.val.accessScope = existing.val.accessScope
  later : existing.version < next.version

theorem version_lt_of_evidence {a b : CandidateIdentity}
    (material : b.val.materialVersion = a.val.materialVersion)
    (evidence : b.val.evidenceVersion = a.val.evidenceVersion + 1) : a.version < b.version := by
  apply Prod.Lex.toLex_lt_toLex.mpr
  right
  refine ⟨material.symm, ?_⟩
  simp only [evidence]
  omega

theorem version_lt_of_material {a b : CandidateIdentity}
    (material : b.val.materialVersion = a.val.materialVersion + 1) : a.version < b.version := by
  apply Prod.Lex.toLex_lt_toLex.mpr
  left
  simp only [material]
  omega

theorem sameBusinessScope_keeps {existing incoming : IdeaCandidate}
    (same : sameBusinessScope existing incoming = true) :
    incoming.val.candidateId = existing.val.candidateId ∧
      incoming.val.accessScope = existing.val.accessScope := by
  simp only [sameBusinessScope, Bool.and_eq_true, decide_eq_true_eq] at same
  exact ⟨same.1.1.1, same.2⟩

section Next
variable {existing incoming next : IdeaCandidate} {occurredAtUtc : DateTime}
  (same : sameBusinessScope existing incoming = true)
include same

theorem refreshed_next {identity : CandidateIdentity}
    (run : refreshed existing incoming identity occurredAtUtc = .ok next)
    (later : existing.val.identity.version < identity.version) : NextVersion existing next := by
  obtain ⟨candidateId, accessScope⟩ := sameBusinessScope_keeps same
  have fields := Checked.make_eq_ok.mp run
  constructor
  · rw [fields]
    exact candidateId
  · rw [fields]
    exact accessScope
  · simp only [IdeaCandidate.version, fields]
    exact later

theorem backfillIdentityPolicy_next
    (run : backfillIdentityPolicy existing incoming occurredAtUtc = .ok next) :
    NextVersion existing next := by
  simp only [backfillIdentityPolicy] at run
  obtain ⟨identity, made, run⟩ := Except.seq_returns.mp run
  have fields := Checked.make_eq_ok.mp made
  refine refreshed_next same run (version_lt_of_evidence ?_ ?_) <;> rw [fields]

theorem refreshEvidence_next
    (run : refreshEvidence existing incoming occurredAtUtc = .ok next) :
    NextVersion existing next := by
  simp only [refreshEvidence] at run
  obtain ⟨identity, made, run⟩ := Except.seq_returns.mp run
  have fields := Checked.make_eq_ok.mp made
  refine refreshed_next same run (version_lt_of_evidence ?_ ?_) <;> rw [fields]

theorem newMaterialVersion_next {reason : CandidateChangeReason}
    (run : newMaterialVersion existing incoming occurredAtUtc reason = .ok next) :
    NextVersion existing next := by
  simp only [newMaterialVersion] at run
  obtain ⟨identity, made, run⟩ := Except.seq_returns.mp run
  obtain ⟨candidateId, accessScope⟩ := sameBusinessScope_keeps same
  have identityFields := Checked.make_eq_ok.mp made
  have fields := Checked.make_eq_ok.mp run
  constructor
  · rw [fields]
    exact candidateId
  · rw [fields]
    exact accessScope
  · simp only [IdeaCandidate.version, fields]
    apply version_lt_of_material
    rw [identityFields]

end Next

/-- A reconciliation refuses, finds nothing new, or returns a later version of
the existing candidate. -/
theorem reconcileCandidate_cases {existing incoming : IdeaCandidate}
    {existingEvidenceHash incomingEvidenceHash : String} {occurredAtUtc : DateTime}
    {result : CandidateReconciliation}
    (run : reconcileCandidate existing incoming existingEvidenceHash incomingEvidenceHash
      occurredAtUtc = .ok result) :
    result = ⟨.identityConflict, none⟩ ∨ result = ⟨.duplicateCandidate, none⟩ ∨
    ∃ next, result.candidate = some next ∧ sameBusinessScope existing incoming = true ∧
      NextVersion existing next ∧
      (result.decision = .evidenceRefreshed ∨ result.decision = .materialVersionCreated ∨
        result.decision = .recurrentConditionReopened) := by
  unfold reconcileCandidate at run
  split at run
  · cases run
    exact Or.inl rfl
  · rename_i shared
    have same : sameBusinessScope existing incoming = true := by simpa using shared
    split at run
    · split at run
      · cases run
        exact Or.inl rfl
      · obtain ⟨next, made, run⟩ := Except.seq_returns.mp run
        cases run
        exact Or.inr (Or.inr
          ⟨next, rfl, same, backfillIdentityPolicy_next same made, Or.inl rfl⟩)
    · split at run
      · cases run
        exact Or.inl rfl
      · split at run
        · cases run
          exact Or.inr (Or.inl rfl)
        · split at run
          · split at run
            · obtain ⟨next, made, run⟩ := Except.seq_returns.mp run
              cases run
              exact Or.inr (Or.inr
                ⟨next, rfl, same, newMaterialVersion_next same made, Or.inr (Or.inr rfl)⟩)
            · obtain ⟨next, made, run⟩ := Except.seq_returns.mp run
              cases run
              exact Or.inr (Or.inr
                ⟨next, rfl, same, newMaterialVersion_next same made, Or.inr (Or.inl rfl)⟩)
          · obtain ⟨next, made, run⟩ := Except.seq_returns.mp run
            cases run
            exact Or.inr (Or.inr
              ⟨next, rfl, same, refreshEvidence_next same made, Or.inl rfl⟩)

end LotusIdea

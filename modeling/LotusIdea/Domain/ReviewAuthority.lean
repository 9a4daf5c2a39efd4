import LotusIdea.Domain.Control
import LotusIdea.Domain.Ideas

/-!
# Review authority

`review_authority.py` and `presentation_receipts.py`: the exact evidence a
review decision was made on, the grant that an approval leaves, and whether the
grant still authorises the candidate as it stands.
-/

set_option autoImplicit false

namespace LotusIdea

/-- `_require_aware_utc` of the modules that raise one error for both faults. -/
def requireUtc (value : DateTime) (fieldName : String) : Bool × PyError :=
  (!value.isUtc, .valueError (fieldName ++ " must be UTC"))

def requirePositiveInteger (value : Int) (fieldName : String) : Bool × PyError :=
  (decide (value ≤ 0), .valueError (fieldName ++ " must be a positive integer"))

/-! ## Presentation receipts -/

def presentationReceiptSchemaVersion : String := "lotus-idea.candidate-presentation-receipt.v2"

def legacyPresentationReceiptSchemaVersion : String :=
  "lotus-idea.candidate-presentation-receipt.v1"

def presentationSurface : String := "advisor_review_queue"

def presentationProducer : String := "lotus-workbench"

def maxPresentedCandidateCount : Int := 100

/-- `^[A-Za-z0-9][A-Za-z0-9._:-]{2,255}$`. -/
def isGovernedReference (value : String) : Bool :=
  match value.toList with
  | [] => false
  | first :: rest =>
      first.isAlphanum && decide (2 ≤ rest.length) && decide (rest.length ≤ 255) &&
        rest.all fun c => c.isAlphanum || c = '.' || c = '_' || c = ':' || c = '-'

def requireGovernedReference (value fieldName : String) : Bool × PyError :=
  (!isGovernedReference value, .valueError (fieldName ++ " must be a governed reference"))

structure CandidatePresentationReceiptFields where
  receiptId : String
  candidateId : String
  tenantId : String
  presentedAtUtc : DateTime
  rankAtPresentation : Int
  visibleCandidateCount : Int
  queueSnapshotDigest : String
  queuePolicyVersion : String
  rankingPolicyVersion : String
  candidateMaterialVersion : Int
  candidateEvidenceVersion : Int
  sourceRevisionVectorDigest : Option String
  sourceCutPosture : SourceCutPosture
  acceptedAtUtc : DateTime
  acceptanceTimeSource : AcceptanceTimeSource := .serverAccepted
  schemaVersion : String := presentationReceiptSchemaVersion
  surface : String := presentationSurface
  producer : String := presentationProducer
  deriving DecidableEq

namespace CandidatePresentationReceiptFields

/-- The current schema carries a revision vector; the legacy one does not. -/
def revisionChecks (r : CandidatePresentationReceiptFields) : List (Bool × PyError) :=
  if r.schemaVersion = presentationReceiptSchemaVersion then
    [(!r.sourceRevisionVectorDigest.any isSha256Digest,
       .valueError "source_revision_vector_digest must be a sha256 digest")]
  else
    [(r.sourceRevisionVectorDigest.isSome,
       .valueError "legacy presentation receipts cannot claim a revision vector")]

def checks (r : CandidatePresentationReceiptFields) : List (Bool × PyError) :=
  [requireGovernedReference r.receiptId "receipt_id",
   requireGovernedReference r.candidateId "candidate_id",
   requireGovernedReference r.tenantId "tenant_id",
   requireGovernedReference r.queuePolicyVersion "queue_policy_version",
   requireGovernedReference r.rankingPolicyVersion "ranking_policy_version",
   (r.schemaVersion != presentationReceiptSchemaVersion &&
       r.schemaVersion != legacyPresentationReceiptSchemaVersion,
     .valueError "unsupported presentation receipt schema_version"),
   (r.surface != presentationSurface, .valueError "unsupported presentation receipt surface"),
   (r.producer != presentationProducer, .valueError "unsupported presentation receipt producer")] ++
  requireAwareUtc r.presentedAtUtc "presented_at_utc" ++
  requireAwareUtc r.acceptedAtUtc "accepted_at_utc" ++
  [(decide (r.visibleCandidateCount < 1 ∨ maxPresentedCandidateCount < r.visibleCandidateCount),
     .valueError "visible_candidate_count must be between 1 and 100"),
   requirePositiveInteger r.rankAtPresentation "rank_at_presentation",
   (!isSha256Digest r.queueSnapshotDigest,
     .valueError "queue_snapshot_digest must be a sha256 digest")] ++
  r.revisionChecks ++
  [(r.schemaVersion = legacyPresentationReceiptSchemaVersion && r.sourceCutPosture != .unknown,
     .valueError "legacy presentation receipts must retain unknown source cut posture"),
   requirePositiveInteger r.candidateMaterialVersion "candidate_material_version",
   requirePositiveInteger r.candidateEvidenceVersion "candidate_evidence_version"]

end CandidatePresentationReceiptFields

abbrev CandidatePresentationReceipt := Checked CandidatePresentationReceiptFields.checks

/-! ## The evidence a decision rests on -/

structure CandidateEvidenceIdentityFields where
  candidateId : String
  materialVersion : Int
  evidenceVersion : Int
  evidencePacketId : String
  evidenceContentHash : String
  sourceRevisionVectorDigest : String
  sourceCutPosture : SourceCutPosture
  sourceCutAuthorityPolicyVersion : String := LotusIdea.sourceCutAuthorityPolicyVersion
  deriving DecidableEq

def CandidateEvidenceIdentityFields.checks (i : CandidateEvidenceIdentityFields) :
    List (Bool × PyError) :=
  [requireText i.candidateId "candidate_id",
   requireText i.evidencePacketId "evidence_packet_id",
   requireText i.evidenceContentHash "evidence_content_hash",
   requireText i.sourceRevisionVectorDigest "source_revision_vector_digest",
   requireText i.sourceCutAuthorityPolicyVersion "source_cut_authority_policy_version",
   requirePositiveInteger i.materialVersion "material_version",
   requirePositiveInteger i.evidenceVersion "evidence_version"]

abbrev CandidateEvidenceIdentity := Checked CandidateEvidenceIdentityFields.checks

theorem not_blank_of_isSha256Digest {value : String} (digest : isSha256Digest value = true) :
    PyText.isBlank value = false := by
  simp only [isSha256Digest, Bool.and_eq_true] at digest
  have start : sha256DigestStart.toList <+: value.toList :=
    List.isPrefixOf_iff_prefix.mp digest.1.1
  obtain ⟨rest, whole⟩ := start
  simp only [PyText.isBlank, ← whole, List.all_append, Bool.and_eq_false_iff]
  exact Or.inl (by decide)

section Evidence
variable [Sha256]

theorem sourceRevisionVectorDigest_not_blank (sourceRefs : List SourceRef) :
    PyText.isBlank (sourceRevisionVectorDigest sourceRefs) = false :=
  PyText.isBlank_append_of_left _ (by decide)

namespace CandidateEvidenceIdentity

/-- The identity of a candidate's current evidence always passes its checks. -/
def fromCandidate (c : IdeaCandidate) : CandidateEvidenceIdentity where
  val :=
    { candidateId := c.val.candidateId
      materialVersion := c.val.identity.val.materialVersion
      evidenceVersion := c.val.identity.val.evidenceVersion
      evidencePacketId := c.val.evidencePacket.val.evidencePacketId
      evidenceContentHash := c.val.evidencePacket.val.lineageRef.val.contentHash
      sourceRevisionVectorDigest := c.val.evidencePacket.sourceRevisionVectorDigest
      sourceCutPosture := c.val.evidencePacket.sourceCutPosture }
  valid := by
    have candidate := c.valid
    have identity := c.val.identity.valid
    have packet := c.val.evidencePacket.valid
    have lineage := c.val.evidencePacket.val.lineageRef.valid
    simp only [IdeaCandidateFields.checks, firstFailure_cons, requireText_passes] at candidate
    simp only [CandidateIdentityFields.checks, firstFailure_append, firstFailure_cons,
      decide_eq_false_iff_not] at identity
    simp only [IdeaEvidencePacketFields.checks, firstFailure_append, firstFailure_cons,
      requireText_passes] at packet
    simp only [LineageRefFields.checks, requireSha256Digest, firstFailure_cons,
      Bool.not_eq_false'] at lineage
    have hash := not_blank_of_isSha256Digest lineage.2.1
    have material : ¬ c.val.identity.val.materialVersion ≤ 0 := by omega
    have evidence : ¬ c.val.identity.val.evidenceVersion ≤ 0 := by omega
    have digest : PyText.isBlank c.val.evidencePacket.sourceRevisionVectorDigest = false :=
      sourceRevisionVectorDigest_not_blank _
    have policy : PyText.isBlank sourceCutAuthorityPolicyVersion = false := by decide
    simp [CandidateEvidenceIdentityFields.checks, requirePositiveInteger, candidate.1, hash,
      packet.1.1.1.1, digest, policy, material, evidence]

def version (i : CandidateEvidenceIdentity) : IdeaVersion :=
  toLex (i.val.materialVersion, i.val.evidenceVersion)

@[simp] theorem version_fromCandidate (c : IdeaCandidate) :
    (fromCandidate c).version = c.version := rfl

theorem fromCandidate_inUtc (c : IdeaCandidate) : fromCandidate c.inUtc = fromCandidate c := by
  apply Checked.ext
  simp only [fromCandidate, IdeaCandidate.inUtc, IdeaEvidencePacket.sourceRevisionVectorDigest_inUtc,
    IdeaEvidencePacket.sourceCutPosture_inUtc]
  rfl

/-- Candidates that compare equal rest on the same evidence. -/
theorem fromCandidate_of_equals {a b : IdeaCandidate} (same : a.equals b = true) :
    fromCandidate a = fromCandidate b :=
  IdeaCandidate.congr_of_equals same fromCandidate fromCandidate_inUtc

/-- Only the fields named here are read. -/
theorem fromCandidate_congr {a b : IdeaCandidate} (candidateId : a.val.candidateId = b.val.candidateId)
    (identity : a.val.identity = b.val.identity)
    (packet : a.val.evidencePacket = b.val.evidencePacket) : fromCandidate a = fromCandidate b := by
  apply Checked.ext
  simp only [fromCandidate, candidateId, identity, packet]

end CandidateEvidenceIdentity

end Evidence

/-! ## The grant of an approval -/

def reviewAuthorityPolicyVersion : String := "idea-review-authority-v1"

/-- Thirty minutes. -/
def workbenchReviewWindow : Int := minutes 30

inductive ReviewChannel where
  | workbench
  | operator
  | legacyUnverified
  deriving DecidableEq, Repr

def ReviewChannel.value : ReviewChannel → String
  | .workbench => "workbench"
  | .operator => "operator"
  | .legacyUnverified => "legacy_unverified"

inductive ReviewAuthorityStatus where
  | active
  | superseded
  | revoked
  | expired
  deriving DecidableEq, Repr

def ReviewAuthorityStatus.value : ReviewAuthorityStatus → String
  | .active => "active"
  | .superseded => "superseded"
  | .revoked => "revoked"
  | .expired => "expired"

structure ReviewAuthorityGrantFields where
  reviewId : String
  candidateEvidence : CandidateEvidenceIdentity
  reviewChannel : ReviewChannel
  actorSubject : String
  actorRole : String
  reviewPolicyVersion : String
  acceptedAtUtc : DateTime
  applicabilityExpiresAtUtc : Option DateTime
  authorityPolicyVersion : String := reviewAuthorityPolicyVersion
  presentationReceiptId : Option String := none
  queueSnapshotDigest : Option String := none
  status : ReviewAuthorityStatus := .active
  deriving DecidableEq

namespace ReviewAuthorityGrantFields

def presentationChecks (g : ReviewAuthorityGrantFields) : List (Bool × PyError) :=
  if g.reviewChannel = .workbench then
    [(g.presentationReceiptId.isNone || g.queueSnapshotDigest.isNone,
       .valueError "Workbench review authority requires presentation context"),
     requireText (g.presentationReceiptId.getD "") "presentation_receipt_id",
     requireText (g.queueSnapshotDigest.getD "") "queue_snapshot_digest"]
  else
    [(g.presentationReceiptId.isSome || g.queueSnapshotDigest.isSome,
       .valueError "non-Workbench review authority cannot carry presentation context")]

def checks (g : ReviewAuthorityGrantFields) : List (Bool × PyError) :=
  [requireText g.reviewId "review_id", requireText g.actorSubject "actor_subject",
   requireText g.actorRole "actor_role",
   requireText g.reviewPolicyVersion "review_policy_version",
   requireText g.authorityPolicyVersion "authority_policy_version",
   requireUtc g.acceptedAtUtc "accepted_at_utc"] ++
  (g.applicabilityExpiresAtUtc.elim [] fun expiry =>
    [requireUtc expiry "applicability_expires_at_utc",
     (decide (expiry ≤ g.acceptedAtUtc),
       .valueError "review authority cannot be granted at or after expiry")]) ++
  g.presentationChecks

end ReviewAuthorityGrantFields

abbrev ReviewAuthorityGrant := Checked ReviewAuthorityGrantFields.checks

namespace ReviewAuthorityGrant
variable [Sha256]

/-- The evaluation of `effective_status` at a time in UTC. -/
def statusAt (g : ReviewAuthorityGrant) (candidate : IdeaCandidate) (evaluatedAtUtc : DateTime) :
    ReviewAuthorityStatus :=
  if g.val.status ≠ .active then g.val.status
  else if g.val.authorityPolicyVersion ≠ reviewAuthorityPolicyVersion then .revoked
  else if g.val.candidateEvidence ≠ CandidateEvidenceIdentity.fromCandidate candidate then
    .superseded
  else if !sourceCutIsAuthoritative candidate.val.evidencePacket.sourceCutPosture then .revoked
  else if candidate.val.evidencePacket.val.supportability ≠ .ready then .revoked
  else if g.val.applicabilityExpiresAtUtc.any fun expiry => decide (expiry ≤ evaluatedAtUtc) then
    .expired
  else .active

def effectiveStatus (g : ReviewAuthorityGrant) (candidate : IdeaCandidate)
    (evaluatedAtUtc : DateTime) : Except PyError ReviewAuthorityStatus := do
  validate [requireUtc evaluatedAtUtc "evaluated_at_utc"]
  return g.statusAt candidate evaluatedAtUtc

theorem effectiveStatus_returns {g : ReviewAuthorityGrant} {candidate : IdeaCandidate}
    {evaluatedAtUtc : DateTime} {status : ReviewAuthorityStatus}
    (run : g.effectiveStatus candidate evaluatedAtUtc = .ok status) :
    evaluatedAtUtc.isUtc = true ∧ g.statusAt candidate evaluatedAtUtc = status := by
  simp only [effectiveStatus] at run
  obtain ⟨_, passed, run⟩ := Except.seq_returns.mp run
  cases run
  have utc := validate_eq_ok.mp passed
  simp only [requireUtc, firstFailure_cons, Bool.not_eq_false'] at utc
  exact ⟨utc.1, rfl⟩

/-- An active grant names the evidence the candidate stands on. -/
theorem evidence_of_active {g : ReviewAuthorityGrant} {candidate : IdeaCandidate}
    {evaluatedAtUtc : DateTime} (active : g.statusAt candidate evaluatedAtUtc = .active) :
    g.val.candidateEvidence = CandidateEvidenceIdentity.fromCandidate candidate := by
  by_contra differs
  unfold statusAt at active
  split at active
  · rename_i status
    exact absurd active status
  · split at active
    · cases active
    · cases active

theorem evidence_of_superseded {g : ReviewAuthorityGrant} {candidate : IdeaCandidate}
    {evaluatedAtUtc : DateTime} (issued : g.val.status = .active)
    (superseded : g.statusAt candidate evaluatedAtUtc = .superseded) :
    g.val.candidateEvidence ≠ CandidateEvidenceIdentity.fromCandidate candidate := by
  intro same
  simp only [statusAt, issued, ne_eq, not_true_eq_false, if_false, same] at superseded
  split at superseded
  · cases superseded
  · split at superseded
    · cases superseded
    · split at superseded
      · cases superseded
      · split at superseded <;> cases superseded

end ReviewAuthorityGrant

/-! ## Validation against the candidate and the presentation -/

/-- `validate_expected_candidate_evidence`. -/
def expectedCandidateEvidenceCheck [Sha256] (expected : CandidateEvidenceIdentity)
    (candidate : IdeaCandidate) : Bool × PyError :=
  (decide (expected ≠ CandidateEvidenceIdentity.fromCandidate candidate),
    .reviewAuthorityConflict "candidate evidence identity is stale")

/-- `validate_workbench_presentation`. -/
def workbenchPresentationChecks (expected : CandidateEvidenceIdentity)
    (receipt : CandidatePresentationReceipt) (reviewAcceptedAtUtc : DateTime) :
    List (Bool × PyError) :=
  [requireUtc reviewAcceptedAtUtc "review_accepted_at_utc",
   (receipt.val.candidateId != expected.val.candidateId,
     .reviewAuthorityConflict "presentation candidate does not match"),
   (receipt.val.candidateMaterialVersion != expected.val.materialVersion,
     .reviewAuthorityConflict "presentation material version does not match"),
   (receipt.val.candidateEvidenceVersion != expected.val.evidenceVersion,
     .reviewAuthorityConflict "presentation evidence version does not match"),
   (decide (reviewAcceptedAtUtc < receipt.val.acceptedAtUtc),
     .reviewAuthorityConflict "presentation was accepted after the review"),
   (decide (receipt.val.acceptedAtUtc < reviewAcceptedAtUtc.shift (-workbenchReviewWindow)),
     .reviewAuthorityConflict "presentation is outside the governed review window")]

end LotusIdea

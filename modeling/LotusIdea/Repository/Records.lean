import LotusIdea.Domain.AILineage
import LotusIdea.Domain.CandidateReconciliation
import LotusIdea.Domain.ReportEvidence
import LotusIdea.Domain.SubmissionTransitions
import LotusIdea.Outbox.Delivery

/-!
# Repository records

`persistence_models.py` and the dictionaries of the in-memory repository.
-/

set_option autoImplicit false

namespace LotusIdea

/-! ## History entries -/

structure LifecycleHistoryEntryFields where
  candidateId : String
  sourceStatus : IdeaLifecycleStatus
  targetStatus : IdeaLifecycleStatus
  actorSubject : String
  changedAtUtc : DateTime
  deriving DecidableEq

def LifecycleHistoryEntryFields.checks (e : LifecycleHistoryEntryFields) :
    List (Bool × PyError) :=
  [requireText e.candidateId "candidate_id", requireText e.actorSubject "actor_subject"] ++
  requireAwareUtc e.changedAtUtc "changed_at_utc"

abbrev LifecycleHistoryEntry := Checked LifecycleHistoryEntryFields.checks

structure CandidateVersionHistoryEntryFields where
  candidateId : String
  businessIdentityId : String
  materialFingerprint : String
  materialVersion : Int
  evidenceVersion : Int
  changeReason : CandidateChangeReason
  sourceLifecycleStatus : Option IdeaLifecycleStatus
  resultingLifecycleStatus : IdeaLifecycleStatus
  supersedesMaterialVersion : Option Int
  evidenceHash : String
  recordedAtUtc : DateTime
  deriving DecidableEq

def CandidateVersionHistoryEntryFields.checks (e : CandidateVersionHistoryEntryFields) :
    List (Bool × PyError) :=
  [requireText e.candidateId "candidate_id",
   requireText e.businessIdentityId "business_identity_id",
   requireText e.materialFingerprint "material_fingerprint",
   requireText e.evidenceHash "evidence_hash",
   (!PyText.startsWith e.materialFingerprint sha256DigestStart,
     .valueError "material_fingerprint must use sha256"),
   (!PyText.startsWith e.evidenceHash sha256DigestStart,
     .valueError "evidence_hash must use sha256"),
   (decide (e.materialVersion < 1), .valueError "material_version must be positive"),
   (decide (e.evidenceVersion < 1), .valueError "evidence_version must be positive")] ++
  supersedesChecks e.supersedesMaterialVersion e.materialVersion ++
  requireAwareUtc e.recordedAtUtc "recorded_at_utc"

abbrev CandidateVersionHistoryEntry := Checked CandidateVersionHistoryEntryFields.checks

namespace CandidateVersionHistoryEntry

def version (e : CandidateVersionHistoryEntry) : IdeaVersion :=
  toLex (e.val.materialVersion, e.val.evidenceVersion)

/-- The entry tells the identity that a candidate carries. -/
def Tells (e : CandidateVersionHistoryEntry) (i : CandidateIdentity) : Prop :=
  e.val.businessIdentityId = i.val.businessIdentityId ∧
    e.val.materialFingerprint = i.val.materialFingerprint ∧
    e.val.materialVersion = i.val.materialVersion ∧
    e.val.evidenceVersion = i.val.evidenceVersion ∧
    e.val.changeReason = i.val.changeReason ∧
    e.val.supersedesMaterialVersion = i.val.supersedesMaterialVersion

theorem Tells.version {e : CandidateVersionHistoryEntry} {i : CandidateIdentity}
    (tells : e.Tells i) : e.version = i.version := by
  obtain ⟨_, _, material, evidence, _⟩ := tells
  simp only [CandidateVersionHistoryEntry.version, CandidateIdentity.version, material, evidence]

/-- `_candidate_version_history_entry`. -/
def ofCandidate (c : IdeaCandidate) (evidenceHash : String)
    (sourceLifecycleStatus : Option IdeaLifecycleStatus) (recordedAtUtc : DateTime) :
    Except PyError CandidateVersionHistoryEntry :=
  Checked.make CandidateVersionHistoryEntryFields.checks
    { candidateId := c.val.candidateId
      businessIdentityId := c.val.identity.val.businessIdentityId
      materialFingerprint := c.val.identity.val.materialFingerprint
      materialVersion := c.val.identity.val.materialVersion
      evidenceVersion := c.val.identity.val.evidenceVersion
      changeReason := c.val.identity.val.changeReason
      sourceLifecycleStatus := sourceLifecycleStatus
      resultingLifecycleStatus := c.val.lifecycleStatus
      supersedesMaterialVersion := c.val.identity.val.supersedesMaterialVersion
      evidenceHash := evidenceHash
      recordedAtUtc := recordedAtUtc }

theorem ofCandidate_tells {c : IdeaCandidate} {evidenceHash : String}
    {sourceLifecycleStatus : Option IdeaLifecycleStatus} {recordedAtUtc : DateTime}
    {e : CandidateVersionHistoryEntry}
    (run : ofCandidate c evidenceHash sourceLifecycleStatus recordedAtUtc = .ok e) :
    e.Tells c.val.identity := by
  have fields := Checked.make_eq_ok.mp run
  rw [Tells, fields]
  exact ⟨rfl, rfl, rfl, rfl, rfl, rfl⟩

end CandidateVersionHistoryEntry

/-! ## Candidate records -/

structure CandidatePersistenceRecordFields where
  candidate : IdeaCandidate
  evidenceHash : String
  persistedAtUtc : DateTime
  versionHistory : List CandidateVersionHistoryEntry := []
  lifecycleHistory : List LifecycleHistoryEntry := []
  auditEvents : List AuditEvent := []
  reviewDecisions : List GovernedReviewDecision := []
  feedbackEvents : List GovernedFeedbackEvent := []
  conversionIntents : List GovernedConversionIntent := []
  conversionOutcomes : List GovernedConversionOutcome := []
  reportEvidencePacks : List GovernedReportEvidencePack := []
  aiExplanationLineageRecords : List AIExplanationLineageRecord := []
  deriving DecidableEq

def CandidatePersistenceRecordFields.checks (r : CandidatePersistenceRecordFields) :
    List (Bool × PyError) :=
  requireText r.evidenceHash "evidence_hash" ::
  requireAwareUtc r.persistedAtUtc "persisted_at_utc"

abbrev CandidatePersistenceRecord := Checked CandidatePersistenceRecordFields.checks

namespace CandidatePersistenceRecord

def create (r : CandidatePersistenceRecordFields) : Except PyError CandidatePersistenceRecord :=
  Checked.make CandidatePersistenceRecordFields.checks r

/-- Replacing anything but the evidence hash and the persistence time succeeds. -/
theorem create_of_kept (r : CandidatePersistenceRecord) {fields : CandidatePersistenceRecordFields}
    (evidenceHash : fields.evidenceHash = r.val.evidenceHash)
    (persistedAtUtc : fields.persistedAtUtc = r.val.persistedAtUtc) :
    ∃ updated, create fields = .ok updated := by
  have valid : firstFailure fields.checks = none := by
    have passed := r.valid
    simp only [CandidatePersistenceRecordFields.checks, evidenceHash, persistedAtUtc] at passed ⊢
    exact passed
  exact ⟨⟨fields, valid⟩, Checked.make_of_valid valid⟩

end CandidatePersistenceRecord

/-- The five result classes have this shape. -/
structure PersistenceResult where
  decision : PersistenceDecision
  record : Option CandidatePersistenceRecord
  auditEvent : Option AuditEvent := none

/-! ## The repository -/

abbrev CandidateRecords := Dict String CandidatePersistenceRecord

section
variable [Sha256]

structure IdeaRepository where
  candidateRecords : CandidateRecords
  idempotencyRecords : Dict String IdempotencyRecord
  idempotencyCandidates : Dict String String
  conversionIntentCandidates : Dict String String
  reportEvidencePackCandidates : Dict String String
  aiExplanationLineageCandidates : Dict String String
  lotusAiAttestationReplay : LotusAIAttestationReplayIndex
  aiProviderRetentionReplay : AIProviderRetentionReplayIndex
  outbox : OutboxState
  downstreamSubmissions : SubmissionStore
  /-- By tenant and receipt id. -/
  presentationReceipts : Dict (String × String) CandidatePresentationReceipt

namespace IdeaRepository

def empty : IdeaRepository where
  candidateRecords := Dict.empty
  idempotencyRecords := Dict.empty
  idempotencyCandidates := Dict.empty
  conversionIntentCandidates := Dict.empty
  reportEvidencePackCandidates := Dict.empty
  aiExplanationLineageCandidates := Dict.empty
  lotusAiAttestationReplay := Dict.empty
  aiProviderRetentionReplay := Dict.empty
  outbox := ⟨Dict.empty, Dict.empty⟩
  downstreamSubmissions := Dict.empty
  presentationReceipts := Dict.empty

/-- `_record_for_idempotency_key`, from the storage key. -/
def recordForStorageKey (s : IdeaRepository) (storageKey : String) :
    Option CandidatePersistenceRecord :=
  (s.idempotencyCandidates.get? storageKey).bind s.candidateRecords.get?

/-- `_conversion_record_for_intent`. -/
def conversionRecordForIntent (s : IdeaRepository) (conversionIntentId : String) :
    Option (String × CandidatePersistenceRecord) :=
  (s.conversionIntentCandidates.get? conversionIntentId).bind fun candidateId =>
    (s.candidateRecords.get? candidateId).map fun record => (candidateId, record)

/-- `_review_identity_record`: the first decision or feedback event with the
identity's type and resource. -/
def reviewIdentityRecord (s : IdeaRepository) (identity : ReviewMutationIdentity) :
    Option (ReviewMutationIdentity × CandidatePersistenceRecord) :=
  s.candidateRecords.values.findSome? fun record =>
    let stored := record.val.reviewDecisions.map reviewMutationIdentityFromDecision ++
      record.val.feedbackEvents.map feedbackMutationIdentityFromEvent
    (stored.find? fun existing =>
      existing.mutationType = identity.mutationType && existing.resourceId = identity.resourceId).map
        fun existing => (existing, record)

/-- `_conversion_outcome_identity_record`. -/
def conversionOutcomeIdentityRecord (s : IdeaRepository) (conversionOutcomeId : String) :
    Option (ConversionOutcomeIdentity × CandidatePersistenceRecord) :=
  s.candidateRecords.values.findSome? fun record =>
    ((record.val.conversionOutcomes.map GovernedConversionOutcome.identity).find? fun existing =>
      existing.conversionOutcomeId = conversionOutcomeId).map fun existing => (existing, record)

end IdeaRepository

end

end LotusIdea

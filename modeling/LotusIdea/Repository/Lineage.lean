import LotusIdea.Repository.Mutations

/-!
# AI lineage and presentation receipts

`persistence_ai_lineage.py`, `ai_lineage_idempotency.py` and
`persistence_presentation_receipts.py`: the repository operations that append no
outbox event.
-/

set_option autoImplicit false

namespace LotusIdea

/-! ## Presentation receipts -/

/-- `has_same_producer_claim`: all but what the server says of the admission. -/
def CandidatePresentationReceipt.hasSameProducerClaim (a b : CandidatePresentationReceipt) : Bool :=
  decide ({ a.val with
    acceptedAtUtc := b.val.acceptedAtUtc
    acceptanceTimeSource := b.val.acceptanceTimeSource } = b.val)

/-- `presentation_receipt_identity`. -/
def presentationReceiptIdentity (receipt : CandidatePresentationReceipt) : String × String :=
  (receipt.val.tenantId, receipt.val.receiptId)

/-- `validate_presentation_receipt_candidate`. -/
def presentationReceiptCandidateChecks [Sha256] (receipt : CandidatePresentationReceipt)
    (candidate : IdeaCandidate) : List (Bool × PyError) :=
  let refused (message : String) := PyError.presentationReceiptCandidateState message
  observedTimeChecks receipt.val.presentedAtUtc receipt.val.acceptedAtUtc presentationTimePolicy ++
  [(receipt.val.candidateId != candidate.val.candidateId,
     refused "candidate identity does not match receipt"),
   (!candidate.val.accessScope.any fun scope => receipt.val.tenantId = scope.val.tenantId,
     refused "candidate tenant does not match receipt"),
   (receipt.val.candidateMaterialVersion != candidate.val.identity.val.materialVersion,
     refused "candidate material version does not match"),
   (receipt.val.candidateEvidenceVersion != candidate.val.identity.val.evidenceVersion,
     refused "candidate evidence version does not match"),
   (receipt.val.sourceRevisionVectorDigest !=
       some candidate.val.evidencePacket.sourceRevisionVectorDigest,
     refused "candidate source revision vector does not match receipt"),
   (decide (receipt.val.sourceCutPosture ≠ candidate.val.evidencePacket.sourceCutPosture),
     refused "candidate source cut posture does not match"),
   (decide (receipt.val.acceptedAtUtc < candidate.val.updatedAtUtc),
     refused "presentation acceptance predates the referenced candidate version")]

inductive PresentationReceiptDecision where
  | accepted
  | replayed
  | conflict
  deriving DecidableEq, Repr

structure PresentationReceiptResult where
  decision : PresentationReceiptDecision
  receipt : Option CandidatePresentationReceipt

/-! ## AI lineage -/

structure AIExplanationLineagePersistenceResult where
  decision : PersistenceDecision
  record : Option CandidatePersistenceRecord
  lineageRecord : Option AIExplanationLineageRecord := none
  auditEvent : Option AuditEvent := none

/-- `ai_explanation_lineage_by_request_id`. -/
def aiExplanationLineageByRequestId (record : CandidatePersistenceRecord) (requestId : String) :
    Option AIExplanationLineageRecord :=
  record.val.aiExplanationLineageRecords.find? fun lineage => lineage.val.requestId = requestId

inductive LineagePlan where
  | answer (result : AIExplanationLineagePersistenceResult)
  | accept (lineage : AIExplanationLineageRecord) (updated : CandidatePersistenceRecord)

section Operations
variable [Sha256]

namespace IdeaRepository

/-- `presentation_receipt_by_id`. -/
def presentationReceiptById (s : IdeaRepository) (receiptId candidateId tenantId : String) :
    Option CandidatePresentationReceipt :=
  (s.presentationReceipts.get? (tenantId, receiptId)).filter fun receipt =>
    receipt.val.candidateId = candidateId && receipt.val.tenantId = tenantId

def recordPresentationReceipt (s : IdeaRepository) (receipt : CandidatePresentationReceipt) :
    Except PyError PresentationReceiptResult × IdeaRepository :=
  let refused (message : String) := PyError.presentationReceiptCandidateState message
  match s.presentationReceipts.get? (presentationReceiptIdentity receipt) with
  | some existing =>
      if existing.val.tenantId ≠ receipt.val.tenantId ∨
          existing.val.candidateId ≠ receipt.val.candidateId then
        (.error (refused "receipt identity is unavailable in the candidate scope"), s)
      else if CandidatePresentationReceipt.hasSameProducerClaim existing receipt then
        (.ok ⟨.replayed, some existing⟩, s)
      else (.ok ⟨.conflict, some existing⟩, s)
  | none =>
      match s.candidateRecords.get? receipt.val.candidateId with
      | none => (.error (refused "candidate is unavailable"), s)
      | some record =>
          match validate (presentationReceiptCandidateChecks receipt record.val.candidate) with
          | .error raised => (.error raised, s)
          | .ok _ =>
              (.ok ⟨.accepted, some receipt⟩,
                { s with
                  presentationReceipts :=
                    s.presentationReceipts.set (presentationReceiptIdentity receipt) receipt })

/-- The arguments of `record_ai_explanation_lineage`. -/
structure LineageRequest where
  result : AIExplanationResult
  attestationReceipt : Option VerifiedLotusAIRunAttestationReceipt := none
  providerRetentionReceipt : Option VerifiedAIProviderRetentionReceipt := none

def LineageRequest.candidateId (q : LineageRequest) : String :=
  q.result.request.redactedEvidence.candidateId

/-- `record_ai_explanation_lineage` up to its writes. -/
def lineagePlan (s : IdeaRepository) (q : LineageRequest) : Except PyError LineagePlan := do
  let lineage ← aiExplanationLineageRecordFromResult q.result q.attestationReceipt
    q.providerRetentionReceipt
  let requestId := lineage.val.requestId
  match s.candidateRecords.get? lineage.val.candidateId with
  | none => return .answer ⟨.notFound, none, none, none⟩
  | some record =>
      if q.attestationReceipt.any (s.lotusAiAttestationReplay.conflicts requestId) then
        return .answer ⟨.conflict, some record, none, none⟩
      else if q.providerRetentionReceipt.any
          (s.aiProviderRetentionReplay.conflicts requestId) then
        return .answer ⟨.conflict, some record, none, none⟩
      else
        match s.aiExplanationLineageCandidates.get? requestId with
        | some existingCandidateId =>
            let existingRecord := s.candidateRecords.get? existingCandidateId
            let existingLineage := existingRecord.bind fun existing =>
              aiExplanationLineageByRequestId existing requestId
            if existingLineage.any fun existing =>
                existing.val.lineageHash = lineage.val.lineageHash then
              return .answer ⟨.replayed, existingRecord, existingLineage, none⟩
            else return .answer ⟨.conflict, existingRecord, existingLineage, none⟩
        | none =>
            let updated ← CandidatePersistenceRecord.create
              { record.val with
                auditEvents := record.val.auditEvents ++ [q.result.auditEvent]
                aiExplanationLineageRecords :=
                  record.val.aiExplanationLineageRecords ++ [lineage] }
            return .accept lineage updated

/-- The writes of an accepted lineage. -/
def writeLineage (s : IdeaRepository) (q : LineageRequest) (lineage : AIExplanationLineageRecord)
    (updated : CandidatePersistenceRecord) : IdeaRepository :=
  { s with
    candidateRecords := s.candidateRecords.set lineage.val.candidateId updated
    aiExplanationLineageCandidates :=
      s.aiExplanationLineageCandidates.set lineage.val.requestId lineage.val.candidateId
    lotusAiAttestationReplay := q.attestationReceipt.elim s.lotusAiAttestationReplay
      (s.lotusAiAttestationReplay.record lineage.val.requestId)
    aiProviderRetentionReplay := q.providerRetentionReceipt.elim s.aiProviderRetentionReplay
      (s.aiProviderRetentionReplay.record lineage.val.requestId) }

def commitLineage (s : IdeaRepository) (q : LineageRequest) :
    LineagePlan → AIExplanationLineagePersistenceResult × IdeaRepository
  | .answer result => (result, s)
  | .accept lineage updated =>
      (⟨.accepted, some updated, some lineage, some q.result.auditEvent⟩,
        s.writeLineage q lineage updated)

def recordAIExplanationLineage (s : IdeaRepository) (q : LineageRequest) :
    Except PyError AIExplanationLineagePersistenceResult × IdeaRepository :=
  match s.lineagePlan q with
  | .error raised => (.error raised, s)
  | .ok plan =>
      let (result, next) := s.commitLineage q plan
      (.ok result, next)

/-- The answer for a key that is stored: a replay finds the lineage of the request. -/
def lineageAnswer (q : LineageRequest) (answered : PersistenceResult) :
    AIExplanationLineagePersistenceResult where
  decision := answered.decision
  record := answered.record
  lineageRecord :=
    if answered.decision = .replayed then
      answered.record.bind fun record =>
        aiExplanationLineageByRequestId record q.result.request.requestId
    else none

/-- `record_ai_explanation_lineage_request`: the key is bound only when the
lineage is accepted. -/
def recordAIExplanationLineageRequest (s : IdeaRepository) (q : LineageRequest)
    (idempotencyKey : String) (payload : Json) :
    Except PyError AIExplanationLineagePersistenceResult × IdeaRepository :=
  match s.candidateRecords.get? q.candidateId with
  | none => (.ok ⟨.notFound, none, none, none⟩, s)
  | some record =>
      match record.val.candidate.val.accessScope with
      | none => (.error unscopedReview, s)
      | some scope =>
          match validate [requireText idempotencyKey "idempotency_key"] with
          | .error raised => (.error raised, s)
          | .ok _ =>
              match s.admission scope.val.tenantId idempotencyKey payload with
              | .error raised => (.error raised, s)
              | .ok (.answered result) => (.ok (lineageAnswer q result), s)
              | .ok (.fresh storageKey idempotencyRecord) =>
                  match s.recordAIExplanationLineage q with
                  | (.error raised, next) => (.error raised, next)
                  | (.ok result, next) =>
                      if result.decision = .accepted then
                        (.ok result,
                          next.bindIdempotency storageKey idempotencyRecord
                            ((result.lineageRecord.map fun lineage =>
                              lineage.val.candidateId).getD q.candidateId))
                      else (.ok result, next)

end IdeaRepository

/-! ## What the operations write -/

/-- What an accepted lineage owes to the state it was planned on. -/
structure LineageAccepted (s : IdeaRepository) (q : IdeaRepository.LineageRequest)
    (lineage : AIExplanationLineageRecord) (record updated : CandidatePersistenceRecord) :
    Prop where
  built : aiExplanationLineageRecordFromResult q.result q.attestationReceipt
    q.providerRetentionReceipt = .ok lineage
  stored : s.candidateRecords.get? lineage.val.candidateId = some record
  attestation : ∀ receipt, q.attestationReceipt = some receipt →
    s.lotusAiAttestationReplay.conflicts lineage.val.requestId receipt = false
  retention : ∀ receipt, q.providerRetentionReceipt = some receipt →
    s.aiProviderRetentionReplay.conflicts lineage.val.requestId receipt = false
  unseen : s.aiExplanationLineageCandidates.get? lineage.val.requestId = none
  fields : updated.val =
    { record.val with
      auditEvents := record.val.auditEvents ++ [q.result.auditEvent]
      aiExplanationLineageRecords := record.val.aiExplanationLineageRecords ++ [lineage] }

theorem lineagePlan_accept {s : IdeaRepository} {q : IdeaRepository.LineageRequest}
    {lineage : AIExplanationLineageRecord} {updated : CandidatePersistenceRecord}
    (run : s.lineagePlan q = .ok (.accept lineage updated)) :
    ∃ record, LineageAccepted s q lineage record updated := by
  simp only [IdeaRepository.lineagePlan] at run
  obtain ⟨built, made, run⟩ := Except.seq_returns.mp run
  split at run
  · cases run
  rename_i record stored
  split at run
  · cases run
  rename_i noAttestation
  split at run
  · cases run
  rename_i noRetention
  split at run
  · split at run <;> cases run
  rename_i unseen
  obtain ⟨kept, created, run⟩ := Except.seq_returns.mp run
  cases run
  refine ⟨record, made, stored, ?_, ?_, unseen, Checked.make_eq_ok.mp created⟩
  · intro receipt given
    rw [given] at noAttestation
    simpa using noAttestation
  · intro receipt given
    rw [given] at noRetention
    simpa using noRetention

/-- Without a write the answer is never an acceptance. -/
theorem lineagePlan_answer {s : IdeaRepository} {q : IdeaRepository.LineageRequest}
    {result : AIExplanationLineagePersistenceResult}
    (run : s.lineagePlan q = .ok (.answer result)) : result.decision ≠ .accepted := by
  simp only [IdeaRepository.lineagePlan] at run
  obtain ⟨built, made, run⟩ := Except.seq_returns.mp run
  split at run
  · cases run
    simp
  split at run
  · cases run
    simp
  split at run
  · cases run
    simp
  split at run
  · split at run
    · cases run
      simp
    · cases run
      simp
  · obtain ⟨kept, created, run⟩ := Except.seq_returns.mp run
    cases run

/-- A lineage is turned away without a write, or written as planned. -/
inductive LineageEffect (s : IdeaRepository) (q : IdeaRepository.LineageRequest) :
    Except PyError AIExplanationLineagePersistenceResult × IdeaRepository → Prop where
  | refused (error : PyError) : LineageEffect s q (.error error, s)
  | answered (result : AIExplanationLineagePersistenceResult)
      (planned : s.lineagePlan q = .ok (.answer result)) : LineageEffect s q (.ok result, s)
  | written (lineage : AIExplanationLineageRecord) (record updated : CandidatePersistenceRecord)
      (accepted : LineageAccepted s q lineage record updated) :
      LineageEffect s q
        (.ok ⟨.accepted, some updated, some lineage, some q.result.auditEvent⟩,
          s.writeLineage q lineage updated)

theorem lineage_effect (s : IdeaRepository) (q : IdeaRepository.LineageRequest) :
    LineageEffect s q (s.recordAIExplanationLineage q) := by
  unfold IdeaRepository.recordAIExplanationLineage
  cases planned : s.lineagePlan q with
  | error raised => exact .refused raised
  | ok plan =>
      cases plan with
      | answer result => exact .answered result planned
      | accept lineage updated =>
          obtain ⟨record, accepted⟩ := lineagePlan_accept planned
          exact .written lineage record updated accepted

/-- The candidate of a lineage is the one that its request names. -/
theorem LineageAccepted.candidateId {s : IdeaRepository} {q : IdeaRepository.LineageRequest}
    {lineage : AIExplanationLineageRecord} {record updated : CandidatePersistenceRecord}
    (accepted : LineageAccepted s q lineage record updated) :
    lineage.val.candidateId = q.candidateId := by
  have built := accepted.built
  simp only [aiExplanationLineageRecordFromResult] at built
  obtain ⟨_, _, built⟩ := Except.seq_returns.mp built
  rw [Checked.make_eq_ok.mp built]
  rfl

theorem LineageAccepted.requestId {s : IdeaRepository} {q : IdeaRepository.LineageRequest}
    {lineage : AIExplanationLineageRecord} {record updated : CandidatePersistenceRecord}
    (accepted : LineageAccepted s q lineage record updated) :
    lineage.val.requestId = q.result.request.requestId := by
  have built := accepted.built
  simp only [aiExplanationLineageRecordFromResult] at built
  obtain ⟨_, _, built⟩ := Except.seq_returns.mp built
  rw [Checked.make_eq_ok.mp built]
  rfl

/-- The state after a keyed lineage request: as it was, or with the lineage
written and its key bound. -/
inductive LineageRequestEffect (s : IdeaRepository) (q : IdeaRepository.LineageRequest)
    (idempotencyKey : String) (payload : Json) :
    Except PyError AIExplanationLineagePersistenceResult × IdeaRepository → Prop where
  | refused (error : PyError) : LineageRequestEffect s q idempotencyKey payload (.error error, s)
  | notFound (absent : s.candidateRecords.get? q.candidateId = none) :
      LineageRequestEffect s q idempotencyKey payload (.ok ⟨.notFound, none, none, none⟩, s)
  | answered (result : PersistenceResult) (record : CandidatePersistenceRecord)
      (scope : ReviewAccessScope) (stored : s.candidateRecords.get? q.candidateId = some record)
      (tenant : record.val.candidate.val.accessScope = some scope)
      (admitted : s.admission scope.val.tenantId idempotencyKey payload = .ok (.answered result)) :
      LineageRequestEffect s q idempotencyKey payload
        (.ok (IdeaRepository.lineageAnswer q result), s)
  | unbound (result : AIExplanationLineagePersistenceResult) (record : CandidatePersistenceRecord)
      (scope : ReviewAccessScope) (storageKey : String) (idempotencyRecord : IdempotencyRecord)
      (stored : s.candidateRecords.get? q.candidateId = some record)
      (tenant : record.val.candidate.val.accessScope = some scope)
      (admitted : s.admission scope.val.tenantId idempotencyKey payload =
        .ok (.fresh storageKey idempotencyRecord))
      (planned : s.lineagePlan q = .ok (.answer result)) :
      LineageRequestEffect s q idempotencyKey payload (.ok result, s)
  | written (lineage : AIExplanationLineageRecord) (record updated : CandidatePersistenceRecord)
      (scope : ReviewAccessScope) (storageKey : String) (idempotencyRecord : IdempotencyRecord)
      (tenant : record.val.candidate.val.accessScope = some scope)
      (admitted : s.admission scope.val.tenantId idempotencyKey payload =
        .ok (.fresh storageKey idempotencyRecord))
      (accepted : LineageAccepted s q lineage record updated) :
      LineageRequestEffect s q idempotencyKey payload
        (.ok ⟨.accepted, some updated, some lineage, some q.result.auditEvent⟩,
          (s.writeLineage q lineage updated).bindIdempotency storageKey idempotencyRecord
            q.candidateId)

theorem lineageRequest_effect (s : IdeaRepository) (q : IdeaRepository.LineageRequest)
    (idempotencyKey : String) (payload : Json) :
    LineageRequestEffect s q idempotencyKey payload
      (s.recordAIExplanationLineageRequest q idempotencyKey payload) := by
  unfold IdeaRepository.recordAIExplanationLineageRequest
  split
  · exact .notFound ‹_›
  rename_i record stored
  split
  · exact .refused _
  rename_i scope tenant
  split
  · exact .refused _
  split
  · exact .refused _
  · exact .answered _ record scope stored tenant ‹_›
  rename_i storageKey idempotencyRecord admitted
  have effect := lineage_effect s q
  cases run : s.recordAIExplanationLineage q with
  | mk answer next =>
      rw [run] at effect
      cases effect with
      | refused error => exact .refused error
      | answered result planned =>
          simp only [lineagePlan_answer planned, if_false]
          exact .unbound result record scope storageKey idempotencyRecord stored tenant admitted
            planned
      | written lineage own updated accepted =>
          have same : own = record := by
            have held := accepted.stored
            rw [accepted.candidateId, stored] at held
            exact (Option.some.inj held).symm
          subst same
          simp only [if_true, Option.map_some, Option.getD_some, accepted.candidateId]
          exact .written lineage own updated scope storageKey idempotencyRecord tenant admitted
            accepted

/-- A receipt is turned away, or stored under its identity for the candidate's
current version. -/
inductive PresentationEffect (s : IdeaRepository) (receipt : CandidatePresentationReceipt) :
    Except PyError PresentationReceiptResult × IdeaRepository → Prop where
  | refused (error : PyError) : PresentationEffect s receipt (.error error, s)
  | answered (result : PresentationReceiptResult) (refuses : result.decision ≠ .accepted) :
      PresentationEffect s receipt (.ok result, s)
  | written (record : CandidatePersistenceRecord)
      (unseen : s.presentationReceipts.get? (presentationReceiptIdentity receipt) = none)
      (stored : s.candidateRecords.get? receipt.val.candidateId = some record)
      (matching : firstFailure
        (presentationReceiptCandidateChecks receipt record.val.candidate) = none) :
      PresentationEffect s receipt
        (.ok ⟨.accepted, some receipt⟩,
          { s with
            presentationReceipts :=
              s.presentationReceipts.set (presentationReceiptIdentity receipt) receipt })

theorem presentation_effect (s : IdeaRepository) (receipt : CandidatePresentationReceipt) :
    PresentationEffect s receipt (s.recordPresentationReceipt receipt) := by
  simp only [IdeaRepository.recordPresentationReceipt]
  split
  · split
    · exact .refused _
    split
    · exact .answered _ (by simp)
    · exact .answered _ (by simp)
  rename_i unseen
  split
  · exact .refused _
  rename_i record stored
  split
  · exact .refused _
  rename_i passed
  exact .written record unseen stored (validate_eq_ok.mp passed)

end Operations

end LotusIdea

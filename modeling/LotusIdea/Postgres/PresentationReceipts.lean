import LotusIdea.Foundation.Runs
import LotusIdea.Postgres.CandidateTable
import LotusIdea.Repository.Lineage

/-!
# Presentation receipts in Postgres

`postgres_presentation_receipts.py`: the receipt table beside the candidate table, and
the recording of a receipt in one transaction.  The table answers as the memory does
unless it is asked about a time outside the policy first, or about a number that its
integer columns cannot hold.
-/

set_option autoImplicit false

namespace Dict
variable {κ υ ω : Type} [DecidableEq κ]

def mapValues (f : υ → ω) (d : Dict κ υ) : Dict κ ω where
  entries := d.entries.map fun entry => (entry.1, f entry.2)
  nodup := by
    have keys := d.nodup
    simpa [Function.comp_def] using keys

@[simp] theorem get?_mapValues (f : υ → ω) (d : Dict κ υ) (key : κ) :
    (d.mapValues f).get? key = (d.get? key).map f := by
  simp only [get?, mapValues]
  induction d.entries with
  | nil => rfl
  | cons entry rest ih =>
      by_cases here : entry.1 = key
      · simp [here]
      · simpa [here] using ih

end Dict

namespace Sql

/-- `(json ->> key)::INTEGER`: the text of a JSON integer reads back as that integer. -/
def arrowInteger (json : Option Json) (key : String) : Option Int :=
  match arrow json key with
  | some (.int n) => some n
  | some (.str text) => text.toInt?
  | _ => none

/-- An `INTEGER` column has 32 bits. -/
def fitsInteger (n : Int) : Bool := decide (-2147483648 ≤ n) && decide (n ≤ 2147483647)

end Sql

namespace LotusIdea

open Json Sql

/-! ## Tables -/

/-- The columns of `idea_candidate_record` that the insertion of a receipt reads. -/
structure PresentedCandidateRow where
  candidateId : String
  candidateJson : Json
  updatedAtUtc : DateTime

/-- `idea_candidate_presentation_receipt`. -/
structure PresentationReceiptRow where
  receiptId : String
  candidateId : String
  tenantId : String
  presentedAtUtc : DateTime
  rankAtPresentation : Int
  visibleCandidateCount : Int
  queueSnapshotDigest : String
  queuePolicyVersion : String
  rankingPolicyVersion : String
  candidateMaterialVersion : Int
  candidateEvidenceVersion : Int
  sourceRevisionVectorDigest : Option String
  sourceCutPosture : String
  acceptedAtUtc : DateTime
  acceptanceTimeSource : String
  schemaVersion : String
  surface : String
  producer : String
  deriving DecidableEq

namespace PresentationReceiptRow

/-- `PRIMARY KEY (tenant_id, receipt_id)`. -/
def primaryKey (row : PresentationReceiptRow) : String × String := (row.tenantId, row.receiptId)

/-- The revision vector that each schema version may carry. -/
def revisionAllowed (row : PresentationReceiptRow) : Bool :=
  (row.schemaVersion == legacyPresentationReceiptSchemaVersion &&
      row.sourceRevisionVectorDigest.isNone &&
      row.sourceCutPosture == SourceCutPosture.unknown.value) ||
    (row.schemaVersion == presentationReceiptSchemaVersion &&
      row.sourceRevisionVectorDigest.any isSha256Digest &&
      (PyEnum.members.map SourceCutPosture.value).contains row.sourceCutPosture)

/-- The `CHECK` constraints of the table. -/
def valuesAllowed (row : PresentationReceiptRow) : Bool :=
  isGovernedReference row.receiptId && isGovernedReference row.tenantId &&
    decide (0 < row.rankAtPresentation) &&
    (decide (1 ≤ row.visibleCandidateCount) && decide (row.visibleCandidateCount ≤ 100)) &&
    isSha256Digest row.queueSnapshotDigest && isGovernedReference row.queuePolicyVersion &&
    isGovernedReference row.rankingPolicyVersion && decide (0 < row.candidateMaterialVersion) &&
    decide (0 < row.candidateEvidenceVersion) && row.revisionAllowed &&
    row.surface == presentationSurface && row.producer == presentationProducer &&
    (PyEnum.members.map AcceptanceTimeSource.value).contains row.acceptanceTimeSource

end PresentationReceiptRow

/-- The rows of the table under their primary keys. -/
structure PresentationReceiptTable where
  rows : Dict (String × String) PresentationReceiptRow
  keyed : ∀ key row, rows.get? key = some row → row.primaryKey = key

def PresentationReceiptTable.insert (table : PresentationReceiptTable)
    (row : PresentationReceiptRow) : PresentationReceiptTable where
  rows := table.rows.set row.primaryKey row
  keyed := by
    intro key stored found
    by_cases here : key = row.primaryKey
    · subst here
      rw [Dict.get?_set_self] at found
      cases found
      rfl
    · rw [Dict.get?_set_of_ne row here] at found
      exact table.keyed key stored found

structure PresentationTables where
  candidates : Dict String PresentedCandidateRow
  receipts : PresentationReceiptTable

/-- The exceptions of the recording: Python's and the server's. -/
inductive PresentationError where
  | raised (error : PyError)
  | numericValueOutOfRange
  | checkViolation

/-! ## Receipts and rows -/

/-- The values that `_insert_receipt` writes. -/
def CandidatePresentationReceipt.row (receipt : CandidatePresentationReceipt) :
    PresentationReceiptRow where
  receiptId := receipt.val.receiptId
  candidateId := receipt.val.candidateId
  tenantId := receipt.val.tenantId
  presentedAtUtc := receipt.val.presentedAtUtc
  rankAtPresentation := receipt.val.rankAtPresentation
  visibleCandidateCount := receipt.val.visibleCandidateCount
  queueSnapshotDigest := receipt.val.queueSnapshotDigest
  queuePolicyVersion := receipt.val.queuePolicyVersion
  rankingPolicyVersion := receipt.val.rankingPolicyVersion
  candidateMaterialVersion := receipt.val.candidateMaterialVersion
  candidateEvidenceVersion := receipt.val.candidateEvidenceVersion
  sourceRevisionVectorDigest := receipt.val.sourceRevisionVectorDigest
  sourceCutPosture := PyEnum.value receipt.val.sourceCutPosture
  acceptedAtUtc := receipt.val.acceptedAtUtc
  acceptanceTimeSource := PyEnum.value receipt.val.acceptanceTimeSource
  schemaVersion := receipt.val.schemaVersion
  surface := receipt.val.surface
  producer := receipt.val.producer

/-- `Enum(text)`. -/
def presentationMember {α : Type} [PyEnum α] (text : String) : Except PyError α :=
  match PyEnum.ofValue? text with
  | some member => .ok member
  | none => .error (.valueError (text ++ " is not a valid member"))

/-- `_receipt_from_row`. -/
def receiptFromRow (row : PresentationReceiptRow) :
    Except PyError CandidatePresentationReceipt := do
  let sourceCutPosture ← presentationMember row.sourceCutPosture
  let acceptanceTimeSource ← presentationMember row.acceptanceTimeSource
  Checked.make CandidatePresentationReceiptFields.checks
    { receiptId := row.receiptId
      candidateId := row.candidateId
      tenantId := row.tenantId
      presentedAtUtc := row.presentedAtUtc
      rankAtPresentation := row.rankAtPresentation
      visibleCandidateCount := row.visibleCandidateCount
      queueSnapshotDigest := row.queueSnapshotDigest
      queuePolicyVersion := row.queuePolicyVersion
      rankingPolicyVersion := row.rankingPolicyVersion
      candidateMaterialVersion := row.candidateMaterialVersion
      candidateEvidenceVersion := row.candidateEvidenceVersion
      sourceRevisionVectorDigest := row.sourceRevisionVectorDigest
      sourceCutPosture := sourceCutPosture
      acceptedAtUtc := row.acceptedAtUtc
      acceptanceTimeSource := acceptanceTimeSource
      schemaVersion := row.schemaVersion
      surface := row.surface
      producer := row.producer }

theorem presentationMember_value {α : Type} [PyEnum α] (member : α) :
    presentationMember (PyEnum.value member) = .ok member := by
  rw [presentationMember, PyEnum.ofValue?_value]

theorem receiptFromRow_row (receipt : CandidatePresentationReceipt) :
    receiptFromRow receipt.row = .ok receipt := by
  simp only [receiptFromRow, CandidatePresentationReceipt.row, presentationMember_value,
    Json.ok_bind]
  exact Checked.make_val receipt

/-- The constraints refuse no receipt that its constructor admits. -/
theorem row_valuesAllowed (receipt : CandidatePresentationReceipt) :
    receipt.row.valuesAllowed = true := by
  have passed := receipt.valid
  simp only [CandidatePresentationReceiptFields.checks, requireGovernedReference,
    requirePositiveInteger, firstFailure_append, firstFailure_cons, firstFailure_nil,
    Bool.not_eq_false', decide_eq_false_iff_not, not_le, not_lt, not_or, bne_eq_false_iff_eq,
    Bool.and_eq_false_iff, and_true] at passed
  obtain ⟨⟨⟨⟨⟨⟨receiptId, candidateId, tenantId, queuePolicy, rankingPolicy, schema, surface,
    producer⟩, _⟩, _⟩, ⟨visible, few⟩, rank, digest⟩, revision⟩, legacy, material, evidence⟩ :=
    passed
  have posture : receipt.row.sourceCutPosture = receipt.val.sourceCutPosture.value := rfl
  have listed : (PyEnum.members.map SourceCutPosture.value).contains
      receipt.row.sourceCutPosture = true := by
    rw [List.contains_iff_mem]
    exact List.mem_map_of_mem (PyEnum.complete _)
  have timed : (PyEnum.members.map AcceptanceTimeSource.value).contains
      receipt.row.acceptanceTimeSource = true := by
    rw [List.contains_iff_mem]
    exact List.mem_map_of_mem (PyEnum.complete _)
  have revised : receipt.row.revisionAllowed = true := by
    simp only [PresentationReceiptRow.revisionAllowed, listed, Bool.and_true, Bool.or_eq_true,
      Bool.and_eq_true, beq_iff_eq]
    rcases schema with current | old
    · right
      simp only [CandidatePresentationReceiptFields.revisionChecks, if_pos current,
        firstFailure_cons, Bool.not_eq_false'] at revision
      exact ⟨current, revision.1⟩
    · left
      have other : receipt.val.schemaVersion ≠ presentationReceiptSchemaVersion := by
        rw [old]
        decide
      simp only [CandidatePresentationReceiptFields.revisionChecks, if_neg other,
        firstFailure_cons] at revision
      refine ⟨⟨old, ?_⟩, ?_⟩
      · simpa [CandidatePresentationReceipt.row] using revision.1
      · rcases legacy with current | unknown
        · exact absurd old (by simpa using current)
        · rw [posture, unknown]
  simp only [PresentationReceiptRow.valuesAllowed, revised, timed]
  simp only [CandidatePresentationReceipt.row, receiptId, tenantId, queuePolicy, rankingPolicy,
    surface, producer, digest, beq_self_eq_true, Bool.and_true, Bool.true_and, Bool.and_eq_true,
    decide_eq_true_eq]
  exact ⟨⟨⟨rank, visible, few⟩, material⟩, evidence⟩

/-! ## Statements -/

/-- The `WHERE` of `_insert_receipt`. -/
def PresentedCandidateRow.admits (row : PresentedCandidateRow)
    (receipt : CandidatePresentationReceipt) : Truth :=
  let part (key : String) := arrow (some row.candidateJson) key
  conj
    [equal (some row.candidateId) (some receipt.val.candidateId),
     equal (arrowText (part "access_scope") "tenant_id") (some receipt.val.tenantId),
     equal (arrowInteger (part "identity") "material_version")
       (some receipt.val.candidateMaterialVersion),
     equal (arrowInteger (part "identity") "evidence_version")
       (some receipt.val.candidateEvidenceVersion),
     equal (arrowText (part "evidence_packet") "source_revision_vector_digest")
       receipt.val.sourceRevisionVectorDigest,
     equal (arrowText (part "evidence_packet") "source_cut_posture")
       (some (PyEnum.value receipt.val.sourceCutPosture)),
     notAfter (some row.updatedAtUtc) (some receipt.val.acceptedAtUtc)]

/-- The numbers of the receipt fit their columns. -/
def PresentationReceiptRow.fitsColumns (row : PresentationReceiptRow) : Bool :=
  fitsInteger row.rankAtPresentation && fitsInteger row.visibleCandidateCount &&
    fitsInteger row.candidateMaterialVersion && fitsInteger row.candidateEvidenceVersion

namespace PresentationTables

def selects (t : PresentationTables) (receipt : CandidatePresentationReceipt) : Bool :=
  (t.candidates.get? receipt.val.candidateId).any fun row => row.admits receipt = some true

/-- `_insert_receipt`: the tables with the new row, when a row is returned.  The
parameters are cast to the types of their columns before a candidate is selected. -/
def insertReceipt (t : PresentationTables) (receipt : CandidatePresentationReceipt) :
    Except PresentationError (Option PresentationTables) :=
  if !receipt.row.fitsColumns then .error .numericValueOutOfRange
  else if !t.selects receipt then .ok none
  else if !receipt.row.valuesAllowed then .error .checkViolation
  else if (t.receipts.rows.get? receipt.row.primaryKey).isSome then .ok none
  else .ok (some { t with receipts := t.receipts.insert receipt.row })

/-- `_load_receipt`. -/
def loadReceipt (t : PresentationTables) (receipt : CandidatePresentationReceipt) :
    Except PyError (Option CandidatePresentationReceipt) :=
  match (t.receipts.rows.get? (receipt.val.tenantId, receipt.val.receiptId)).filter fun row =>
      row.candidateId = receipt.val.candidateId with
  | none => .ok none
  | some row => (receiptFromRow row).map some

/-- The answer of a receipt that is stored already. -/
def storedAnswer (existing receipt : CandidatePresentationReceipt) : PresentationReceiptResult :=
  ⟨if existing.hasSameProducerClaim receipt then .replayed else .conflict, some existing⟩

/-- The branch of a time outside the policy. -/
def replayOnSkew (t : PresentationTables) (receipt : CandidatePresentationReceipt)
    (skew : PyError) : Except PresentationError PresentationReceiptResult :=
  match t.loadReceipt receipt with
  | .error raised => .error (.raised raised)
  | .ok none => .error (.raised skew)
  | .ok (some existing) =>
      if existing.hasSameProducerClaim receipt then .ok ⟨.replayed, some existing⟩
      else .error (.raised skew)

/-- The branch of a receipt that was not inserted. -/
def answerStored (t : PresentationTables) (receipt : CandidatePresentationReceipt) :
    Except PresentationError PresentationReceiptResult :=
  match t.loadReceipt receipt with
  | .error raised => .error (.raised raised)
  | .ok none => .error (.raised (.presentationReceiptCandidateState
      "candidate does not match the referenced tenant and version"))
  | .ok (some existing) => .ok (storedAnswer existing receipt)

/-- `_record_presentation_receipt`; an exception rolls the transaction back. -/
def recordPresentationReceipt (t : PresentationTables) (receipt : CandidatePresentationReceipt) :
    Except PresentationError PresentationReceiptResult × PresentationTables :=
  match validate (observedTimeChecks receipt.val.presentedAtUtc receipt.val.acceptedAtUtc
      presentationTimePolicy) with
  | .error (.observedTimeSkew policyId) =>
      (t.replayOnSkew receipt (.observedTimeSkew policyId), t)
  | .error raised => (.error (.raised raised), t)
  | .ok _ =>
      match t.insertReceipt receipt with
      | .error error => (.error error, t)
      | .ok (some inserted) => (.ok ⟨.accepted, some receipt⟩, inserted)
      | .ok none => (t.answerStored receipt, t)

end PresentationTables

/-! ## What the tables hold of a repository -/

section
variable [Sha256]

/-- The row of the candidate of a record. -/
def CandidatePersistenceRecord.presentedRow (r : CandidatePersistenceRecord) :
    PresentedCandidateRow where
  candidateId := r.val.candidate.val.candidateId
  candidateJson := candidateToJson r.val.candidate
  updatedAtUtc := r.val.candidate.val.updatedAtUtc

/-- The tables hold the candidates and the receipts of the repository. -/
structure PresentationTables.Holds (t : PresentationTables) (s : IdeaRepository) : Prop where
  candidates : ∀ id, t.candidates.get? id =
    (s.candidateRecords.get? id).map CandidatePersistenceRecord.presentedRow
  receipts : ∀ key, t.receipts.rows.get? key =
    (s.presentationReceipts.get? key).map CandidatePresentationReceipt.row

/-- The tables of a repository whose receipts stand under their identities. -/
def PresentationTables.ofRepository (s : IdeaRepository)
    (identities : ∀ key receipt, s.presentationReceipts.get? key = some receipt →
      presentationReceiptIdentity receipt = key) : PresentationTables where
  candidates := s.candidateRecords.mapValues CandidatePersistenceRecord.presentedRow
  receipts :=
    { rows := s.presentationReceipts.mapValues CandidatePresentationReceipt.row
      keyed := by
        intro key row stored
        rw [Dict.get?_mapValues, Option.map_eq_some_iff] at stored
        obtain ⟨receipt, held, rfl⟩ := stored
        exact identities key receipt held }

theorem PresentationTables.ofRepository_holds (s : IdeaRepository)
    (identities : ∀ key receipt, s.presentationReceipts.get? key = some receipt →
      presentationReceiptIdentity receipt = key) :
    (PresentationTables.ofRepository s identities).Holds s :=
  ⟨fun id => Dict.get?_mapValues _ _ id, fun key => Dict.get?_mapValues _ _ key⟩

/-- The checks of `validate_presentation_receipt_candidate` on the candidate. -/
def presentationMatchChecks (receipt : CandidatePresentationReceipt) (candidate : IdeaCandidate) :
    List (Bool × PyError) :=
  (presentationReceiptCandidateChecks receipt candidate).drop
    (observedTimeChecks receipt.val.presentedAtUtc receipt.val.acceptedAtUtc
      presentationTimePolicy).length

theorem presentationChecks_split (receipt : CandidatePresentationReceipt)
    (candidate : IdeaCandidate) :
    presentationReceiptCandidateChecks receipt candidate =
      observedTimeChecks receipt.val.presentedAtUtc receipt.val.acceptedAtUtc
        presentationTimePolicy ++ presentationMatchChecks receipt candidate := by
  rw [presentationMatchChecks, presentationReceiptCandidateChecks, List.drop_left]

/-- A candidate that does not match is refused by one kind of error. -/
theorem presentationMatch_refuses {receipt : CandidatePresentationReceipt}
    {candidate : IdeaCandidate} {error : PyError}
    (refused : firstFailure (presentationMatchChecks receipt candidate) = some error) :
    ∃ message, error = .presentationReceiptCandidateState message := by
  have listed := firstFailure_mem refused
  simp only [presentationMatchChecks, presentationReceiptCandidateChecks, List.drop_left,
    List.mem_cons, Prod.mk.injEq, List.not_mem_nil, or_false] at listed
  rcases listed with h | h | h | h | h | h | h <;> exact ⟨_, h.2⟩

/-- What the statement reads of the JSON of a candidate. -/
theorem presentedRow_reads (r : CandidatePersistenceRecord) :
    arrowText (arrow (some r.presentedRow.candidateJson) "access_scope") "tenant_id" =
        r.val.candidate.val.accessScope.map (fun scope => scope.val.tenantId) ∧
      arrowInteger (arrow (some r.presentedRow.candidateJson) "identity") "material_version" =
        some r.val.candidate.val.identity.val.materialVersion ∧
      arrowInteger (arrow (some r.presentedRow.candidateJson) "identity") "evidence_version" =
        some r.val.candidate.val.identity.val.evidenceVersion ∧
      arrowText (arrow (some r.presentedRow.candidateJson) "evidence_packet")
          "source_revision_vector_digest" =
        some r.val.candidate.val.evidencePacket.sourceRevisionVectorDigest ∧
      arrowText (arrow (some r.presentedRow.candidateJson) "evidence_packet")
          "source_cut_posture" =
        some (PyEnum.value r.val.candidate.val.evidencePacket.sourceCutPosture) := by
  refine ⟨?_, ?_, ?_, ?_, ?_⟩
  · cases scope : r.val.candidate.val.accessScope with
    | none => simp [CandidatePersistenceRecord.presentedRow, candidateToJson, arrowText, ofOption,
        scope]
    | some own => simp [CandidatePersistenceRecord.presentedRow, candidateToJson, arrowText,
        ofOption, accessScopePayload, scope]
  · simp [CandidatePersistenceRecord.presentedRow, candidateToJson, candidateIdentityToJson,
      arrowInteger]
  · simp [CandidatePersistenceRecord.presentedRow, candidateToJson, candidateIdentityToJson,
      arrowInteger]
  · simp [CandidatePersistenceRecord.presentedRow, candidateToJson, evidencePacketToJson, arrowText]
  · simp [CandidatePersistenceRecord.presentedRow, candidateToJson, evidencePacketToJson, arrowText,
      ofMember]

/-- The `WHERE` selects the rows of the candidates that pass the checks. -/
theorem presentedRow_admits (r : CandidatePersistenceRecord)
    (receipt : CandidatePresentationReceipt) :
    r.presentedRow.admits receipt = some true ↔
      firstFailure (presentationMatchChecks receipt r.val.candidate) = none := by
  obtain ⟨tenant, material, evidence, digest, posture⟩ := presentedRow_reads r
  have tenantMatches : equal (r.val.candidate.val.accessScope.map fun scope => scope.val.tenantId)
      (some receipt.val.tenantId) = some true ↔
      (r.val.candidate.val.accessScope.any fun scope =>
        receipt.val.tenantId = scope.val.tenantId) = true := by
    cases r.val.candidate.val.accessScope with
    | none => simp
    | some scope => simp [eq_comm]
  have revisionMatches : equal (some r.val.candidate.val.evidencePacket.sourceRevisionVectorDigest)
      receipt.val.sourceRevisionVectorDigest = some true ↔
      receipt.val.sourceRevisionVectorDigest =
        some r.val.candidate.val.evidencePacket.sourceRevisionVectorDigest := by
    cases receipt.val.sourceRevisionVectorDigest with
    | none => simp
    | some digest => simp [eq_comm]
  rw [PresentedCandidateRow.admits]
  simp only [tenant, material, evidence, digest, posture, conj_cons_true, conj_nil, tenantMatches,
    revisionMatches, notAfter_some, equal_some, Option.some.injEq, decide_eq_true_eq,
    presentationMatchChecks, presentationReceiptCandidateChecks, List.drop_left,
    firstFailure_cons, firstFailure_nil, bne_eq_false_iff_eq, Bool.not_eq_false',
    decide_eq_false_iff_not, ne_eq, not_not, and_true, DateTime.lt_def, not_lt]
  constructor
  · rintro ⟨id, tenant, material, evidence, digest, posture, time⟩
    exact ⟨id.symm, tenant, material.symm, evidence.symm, digest,
      PyEnum.value_injective posture.symm, time⟩
  · rintro ⟨id, tenant, material, evidence, digest, posture, time⟩
    exact ⟨id.symm, tenant, material.symm, evidence.symm, digest,
      congrArg PyEnum.value posture.symm, time⟩

/-! ## Dispositions -/

/-- What a store makes of a receipt. -/
inductive PresentationDisposition where
  | answered (result : PresentationReceiptResult)
  | candidateState
  | skewed
  | failed

def presentationDisposition :
    Except PresentationError PresentationReceiptResult → PresentationDisposition
  | .ok result => .answered result
  | .error (.raised (.presentationReceiptCandidateState _)) => .candidateState
  | .error (.raised (.observedTimeSkew _)) => .skewed
  | .error _ => .failed

omit [Sha256] in
theorem presentationDisposition_answered
    {answer : Except PresentationError PresentationReceiptResult}
    {result : PresentationReceiptResult} :
    presentationDisposition answer = .answered result ↔ answer = .ok result := by
  constructor
  · intro answered
    unfold presentationDisposition at answered
    split at answered
    · cases answered
      rfl
    all_goals cases answered
  · intro same
    rw [same]
    rfl

/-- The disposition of a receipt in memory. -/
def IdeaRepository.presentationDisposition (s : IdeaRepository)
    (receipt : CandidatePresentationReceipt) : PresentationDisposition :=
  LotusIdea.presentationDisposition ((s.recordPresentationReceipt receipt).1.mapError .raised)

/-- The disposition of a receipt in the tables. -/
def PresentationTables.presentationDisposition (t : PresentationTables)
    (receipt : CandidatePresentationReceipt) : PresentationDisposition :=
  LotusIdea.presentationDisposition (t.recordPresentationReceipt receipt).1

/-- The receipt's time is outside the policy of presentations. -/
def CandidatePresentationReceipt.skewed (receipt : CandidatePresentationReceipt) : Bool :=
  (firstFailure (observedTimeChecks receipt.val.presentedAtUtc receipt.val.acceptedAtUtc
    presentationTimePolicy)).isSome

/-- The receipts that both stores make the same of. -/
structure IdeaRepository.PresentsAlike (s : IdeaRepository)
    (receipt : CandidatePresentationReceipt) : Prop where
  onTime : receipt.skewed = false → receipt.row.fitsColumns = true
  skewed : receipt.skewed = true →
    match s.presentationReceipts.get? (presentationReceiptIdentity receipt) with
    | some existing => existing.hasSameProducerClaim receipt = true
    | none => (s.candidateRecords.get? receipt.val.candidateId).isSome = true

omit [Sha256] in
theorem skew_of_skewed {receipt : CandidatePresentationReceipt} (skewed : receipt.skewed = true) :
    firstFailure (observedTimeChecks receipt.val.presentedAtUtc receipt.val.acceptedAtUtc
      presentationTimePolicy) = some (.observedTimeSkew presentationTimePolicy.policyId) := by
  obtain ⟨error, failed⟩ := Option.isSome_iff_exists.mp skewed
  have passed := receipt.valid
  simp only [CandidatePresentationReceiptFields.checks, firstFailure_append,
    firstFailure_requireAwareUtc] at passed
  have presented : receipt.val.presentedAtUtc.isUtc = true := passed.1.1.1.1.2
  have accepted : receipt.val.acceptedAtUtc.isUtc = true := passed.1.1.1.2
  have listed := firstFailure_mem failed
  simp only [observedTimeChecks, requireUtcOffset, requireAware, presented, accepted,
    DateTime.isNaive_of_isUtc, List.cons_append, List.nil_append, List.mem_cons, Prod.mk.injEq,
    Bool.not_true, List.not_mem_nil, Bool.true_eq_false, false_and, false_or, or_false] at listed
  rcases listed with early | late
  · rw [failed, early.2]
  · rw [failed, late.2]

/-- The receipt of the identity, where it is of the candidate. -/
theorem loadReceipt_of_holds {t : PresentationTables} {s : IdeaRepository} (holds : t.Holds s)
    (receipt : CandidatePresentationReceipt) :
    t.loadReceipt receipt =
      .ok ((s.presentationReceipts.get? (presentationReceiptIdentity receipt)).filter
        fun existing => existing.val.candidateId = receipt.val.candidateId) := by
  have found := holds.receipts (presentationReceiptIdentity receipt)
  rw [presentationReceiptIdentity] at found
  rw [PresentationTables.loadReceipt, found, presentationReceiptIdentity]
  cases s.presentationReceipts.get? (receipt.val.tenantId, receipt.val.receiptId) with
  | none => rfl
  | some existing =>
      by_cases same : existing.val.candidateId = receipt.val.candidateId
      · have own : existing.row.candidateId = receipt.val.candidateId := same
        simp only [Option.map_some, Option.filter_some, own, same, decide_true, if_true,
          receiptFromRow_row]
        rfl
      · have other : existing.row.candidateId ≠ receipt.val.candidateId := same
        simp only [Option.map_some, Option.filter_some, other, same, decide_false,
          Bool.false_eq_true, if_false]

theorem PresentationTables.Holds.identity {t : PresentationTables} {s : IdeaRepository}
    (holds : t.Holds s) {key : String × String} {existing : CandidatePresentationReceipt}
    (stored : s.presentationReceipts.get? key = some existing) :
    presentationReceiptIdentity existing = key := by
  have found := holds.receipts key
  rw [stored, Option.map_some] at found
  exact t.receipts.keyed key existing.row found

omit [Sha256] in
theorem candidateId_of_sameClaim {existing receipt : CandidatePresentationReceipt}
    (same : existing.hasSameProducerClaim receipt = true) :
    existing.val.candidateId = receipt.val.candidateId := by
  rw [CandidatePresentationReceipt.hasSameProducerClaim, decide_eq_true_eq] at same
  have ids := congrArg CandidatePresentationReceiptFields.candidateId same
  exact ids

/-! ## Both stores on one receipt -/

section Alike
variable {s : IdeaRepository} {t : PresentationTables} {receipt : CandidatePresentationReceipt}

open PresentationTables (storedAnswer)

/-- A receipt whose identity is stored. -/
theorem memory_stored {existing : CandidatePresentationReceipt}
    (stored : s.presentationReceipts.get? (presentationReceiptIdentity receipt) = some existing)
    (identity : presentationReceiptIdentity existing = presentationReceiptIdentity receipt) :
    s.presentationDisposition receipt =
      if existing.val.candidateId = receipt.val.candidateId then
        .answered (storedAnswer existing receipt)
      else .candidateState := by
  have tenant : existing.val.tenantId = receipt.val.tenantId := congrArg Prod.fst identity
  rw [IdeaRepository.presentationDisposition, IdeaRepository.recordPresentationReceipt, stored]
  by_cases same : existing.val.candidateId = receipt.val.candidateId
  · by_cases claim : existing.hasSameProducerClaim receipt = true
    · simp [tenant, same, claim, storedAnswer, presentationDisposition, Except.mapError]
    · simp [tenant, same, claim, storedAnswer, presentationDisposition, Except.mapError]
  · simp [tenant, same, presentationDisposition, Except.mapError]

/-- A receipt of a new identity. -/
theorem memory_unseen
    (unseen : s.presentationReceipts.get? (presentationReceiptIdentity receipt) = none) :
    s.presentationDisposition receipt =
      match s.candidateRecords.get? receipt.val.candidateId with
      | none => .candidateState
      | some record =>
          if receipt.skewed then .skewed
          else if firstFailure (presentationMatchChecks receipt record.val.candidate) = none then
            .answered ⟨.accepted, some receipt⟩
          else .candidateState := by
  rw [IdeaRepository.presentationDisposition, IdeaRepository.recordPresentationReceipt, unseen]
  cases s.candidateRecords.get? receipt.val.candidateId with
  | none => rfl
  | some record =>
      have whole := presentationChecks_split receipt record.val.candidate
      by_cases skewed : receipt.skewed = true
      · have failed : validate (presentationReceiptCandidateChecks receipt record.val.candidate) =
            .error (.observedTimeSkew presentationTimePolicy.policyId) := by
          rw [validate_eq_error, whole, firstFailure_or, skew_of_skewed skewed]
          rfl
        simp only [failed, skewed, if_true, Except.mapError, presentationDisposition]
      · have onTime : firstFailure (observedTimeChecks receipt.val.presentedAtUtc
            receipt.val.acceptedAtUtc presentationTimePolicy) = none := by
          simpa [CandidatePresentationReceipt.skewed] using skewed
        cases matched : firstFailure (presentationMatchChecks receipt record.val.candidate) with
        | none =>
            have passed : validate (presentationReceiptCandidateChecks receipt
                record.val.candidate) = .ok () := by
              rw [validate_eq_ok, whole, firstFailure_append]
              exact ⟨onTime, matched⟩
            simp [passed, skewed, matched, Except.mapError, presentationDisposition]
        | some error =>
            have failed : validate (presentationReceiptCandidateChecks receipt
                record.val.candidate) = .error error := by
              rw [validate_eq_error, whole, firstFailure_or, onTime, matched]
              rfl
            obtain ⟨message, rfl⟩ := presentationMatch_refuses matched
            simp [failed, skewed, matched, Except.mapError, presentationDisposition]

/-- The tables ask for the time first. -/
theorem tables_skewed (holds : t.Holds s) (skewed : receipt.skewed = true) :
    t.presentationDisposition receipt =
      match s.presentationReceipts.get? (presentationReceiptIdentity receipt) with
      | none => .skewed
      | some existing =>
          if existing.hasSameProducerClaim receipt then .answered ⟨.replayed, some existing⟩
          else .skewed := by
  have failed := validate_eq_error.mpr (skew_of_skewed skewed)
  rw [PresentationTables.presentationDisposition, PresentationTables.recordPresentationReceipt,
    failed]
  simp only [PresentationTables.replayOnSkew, loadReceipt_of_holds holds]
  cases s.presentationReceipts.get? (presentationReceiptIdentity receipt) with
  | none => rfl
  | some existing =>
      by_cases claim : existing.hasSameProducerClaim receipt = true
      · have same := candidateId_of_sameClaim claim
        simp only [Option.filter_some, same, decide_true, if_true, claim, presentationDisposition]
      · by_cases same : existing.val.candidateId = receipt.val.candidateId
        · simp only [Option.filter_some, same, decide_true, if_true, claim, Bool.false_eq_true,
            if_false, presentationDisposition]
        · simp only [Option.filter_some, same, decide_false, Bool.false_eq_true, if_false, claim,
            presentationDisposition]

/-- The tables select a candidate as the memory matches one. -/
theorem selects_iff (holds : t.Holds s) :
    t.selects receipt = true ↔
      ∃ record, s.candidateRecords.get? receipt.val.candidateId = some record ∧
        firstFailure (presentationMatchChecks receipt record.val.candidate) = none := by
  rw [PresentationTables.selects, holds.candidates]
  cases s.candidateRecords.get? receipt.val.candidateId with
  | none => simp
  | some record => simp [presentedRow_admits]

/-- A receipt that arrives in time and fits its columns. -/
theorem tables_onTime (holds : t.Holds s) (onTime : receipt.skewed = false)
    (fits : receipt.row.fitsColumns = true) :
    t.presentationDisposition receipt = s.presentationDisposition receipt := by
  have passed : validate (observedTimeChecks receipt.val.presentedAtUtc
      receipt.val.acceptedAtUtc presentationTimePolicy) = .ok () := by
    rw [validate_eq_ok]
    simpa [CandidatePresentationReceipt.skewed] using onTime
  have selected : t.selects receipt = true ↔
      ∃ record, s.candidateRecords.get? receipt.val.candidateId = some record ∧
        firstFailure (presentationMatchChecks receipt record.val.candidate) = none :=
    selects_iff holds
  have held := holds.receipts (presentationReceiptIdentity receipt)
  have key : receipt.row.primaryKey = presentationReceiptIdentity receipt := rfl
  have load := loadReceipt_of_holds holds receipt
  rw [PresentationTables.presentationDisposition, PresentationTables.recordPresentationReceipt,
    passed]
  cases stored : s.presentationReceipts.get? (presentationReceiptIdentity receipt) with
  | some existing =>
      rw [memory_stored stored (holds.identity stored)]
      have refused : t.insertReceipt receipt = .ok none := by
        rw [PresentationTables.insertReceipt, fits, row_valuesAllowed, key, held, stored]
        by_cases chosen : t.selects receipt = true <;> simp [chosen]
      rw [refused]
      simp only [PresentationTables.answerStored, load, stored]
      by_cases same : existing.val.candidateId = receipt.val.candidateId
      · simp only [Option.filter_some, same, decide_true, if_true, presentationDisposition]
      · simp only [Option.filter_some, same, decide_false, Bool.false_eq_true, if_false,
          presentationDisposition]
  | none =>
      rw [memory_unseen stored]
      by_cases chosen : t.selects receipt = true
      · obtain ⟨record, found, matched⟩ := selected.mp chosen
        have inserted : t.insertReceipt receipt =
            .ok (some { t with receipts := t.receipts.insert receipt.row }) := by
          rw [PresentationTables.insertReceipt, fits, row_valuesAllowed, key, held, stored, chosen]
          rfl
        rw [inserted, found]
        simp only [onTime, matched, Bool.false_eq_true, if_false, if_true,
          presentationDisposition]
      · have refused : t.insertReceipt receipt = .ok none := by
          simp [PresentationTables.insertReceipt, fits, chosen]
        rw [refused]
        simp only [PresentationTables.answerStored, load, stored, Option.filter_none,
          presentationDisposition]
        cases found : s.candidateRecords.get? receipt.val.candidateId with
        | none => rfl
        | some record =>
            have unmatched : firstFailure (presentationMatchChecks receipt record.val.candidate) ≠
                none := fun matched => chosen (selected.mpr ⟨record, found, matched⟩)
            simp only [onTime, unmatched, Bool.false_eq_true, if_false]

omit [Sha256] in
theorem tables_wide (onTime : receipt.skewed = false) (wide : receipt.row.fitsColumns = false) :
    t.presentationDisposition receipt = .failed := by
  have passed : validate (observedTimeChecks receipt.val.presentedAtUtc
      receipt.val.acceptedAtUtc presentationTimePolicy) = .ok () := by
    rw [validate_eq_ok]
    simpa [CandidatePresentationReceipt.skewed] using onTime
  rw [PresentationTables.presentationDisposition, PresentationTables.recordPresentationReceipt,
    passed]
  simp [PresentationTables.insertReceipt, wide, presentationDisposition]

/-- The memory refuses for no other reason than the candidate or the time. -/
theorem memory_not_failed (holds : t.Holds s) : s.presentationDisposition receipt ≠ .failed := by
  cases stored : s.presentationReceipts.get? (presentationReceiptIdentity receipt) with
  | some existing =>
      rw [memory_stored stored (holds.identity stored)]
      split_ifs <;> simp
  | none =>
      rw [memory_unseen stored]
      cases s.candidateRecords.get? receipt.val.candidateId with
      | none => simp
      | some record =>
          simp only
          split_ifs <;> simp

/-- Both stores make the same of a receipt exactly when it is in time and fits the
columns, or is late and either repeats a stored claim or names a stored candidate
under a new identity. -/
theorem presentsAlike_iff (holds : t.Holds s) :
    t.presentationDisposition receipt = s.presentationDisposition receipt ↔
      s.PresentsAlike receipt := by
  by_cases skewed : receipt.skewed = true
  · have late : receipt.skewed ≠ false := by simp [skewed]
    have reduced : s.PresentsAlike receipt ↔
        match s.presentationReceipts.get? (presentationReceiptIdentity receipt) with
        | some existing => existing.hasSameProducerClaim receipt = true
        | none => (s.candidateRecords.get? receipt.val.candidateId).isSome = true :=
      ⟨fun alike => alike.skewed skewed, fun met => ⟨fun onTime => absurd onTime late, fun _ => met⟩⟩
    rw [reduced, tables_skewed holds skewed]
    cases stored : s.presentationReceipts.get? (presentationReceiptIdentity receipt) with
    | some existing =>
        rw [memory_stored stored (holds.identity stored)]
        by_cases claim : existing.hasSameProducerClaim receipt = true
        · simp [claim, candidateId_of_sameClaim claim, PresentationTables.storedAnswer]
        · by_cases same : existing.val.candidateId = receipt.val.candidateId
          · simp [claim, same]
          · simp [claim, same]
    | none =>
        rw [memory_unseen stored]
        cases s.candidateRecords.get? receipt.val.candidateId with
        | none => simp
        | some record => simp [skewed]
  · have onTime : receipt.skewed = false := by simpa using skewed
    have reduced : s.PresentsAlike receipt ↔ receipt.row.fitsColumns = true :=
      ⟨fun alike => alike.onTime onTime, fun fits => ⟨fun _ => fits, fun late => absurd late skewed⟩⟩
    rw [reduced]
    by_cases fits : receipt.row.fitsColumns = true
    · exact iff_of_true (tables_onTime holds onTime fits) fits
    · have wide : receipt.row.fitsColumns = false := by simpa using fits
      refine iff_of_false ?_ fits
      rw [tables_wide onTime wide]
      exact (memory_not_failed holds).symm

end Alike

end

/-! ## What a recording does to the tables -/

/-- A recording leaves the tables alone, or inserts the row of a new identity. -/
inductive TablesEffect (t : PresentationTables) (receipt : CandidatePresentationReceipt) :
    Except PresentationError PresentationReceiptResult × PresentationTables → Prop where
  | kept (answer : Except PresentationError PresentationReceiptResult)
      (refuses : ∀ result, answer = .ok result → result.decision ≠ .accepted) :
      TablesEffect t receipt (answer, t)
  | inserted (unseen : t.receipts.rows.get? (presentationReceiptIdentity receipt) = none) :
      TablesEffect t receipt
        (.ok ⟨.accepted, some receipt⟩, { t with receipts := t.receipts.insert receipt.row })

theorem storedAnswer_refuses (existing receipt : CandidatePresentationReceipt) :
    (PresentationTables.storedAnswer existing receipt).decision ≠ .accepted := by
  rw [PresentationTables.storedAnswer]
  split_ifs <;> simp

theorem insertReceipt_inserted {t inserted : PresentationTables}
    {receipt : CandidatePresentationReceipt}
    (run : t.insertReceipt receipt = .ok (some inserted)) :
    t.receipts.rows.get? (presentationReceiptIdentity receipt) = none ∧
      inserted = { t with receipts := t.receipts.insert receipt.row } := by
  rw [PresentationTables.insertReceipt] at run
  split_ifs at run with wide unselected refused seen
  · cases run
  · cases run
  · cases run
    exact ⟨Option.not_isSome_iff_eq_none.mp seen, rfl⟩

theorem tables_effect (t : PresentationTables) (receipt : CandidatePresentationReceipt) :
    TablesEffect t receipt (t.recordPresentationReceipt receipt) := by
  rw [PresentationTables.recordPresentationReceipt]
  split
  · refine .kept _ ?_
    intro result answered
    rw [PresentationTables.replayOnSkew] at answered
    split at answered
    · cases answered
    · cases answered
    · split_ifs at answered
      cases answered
      simp
  · exact .kept _ (by simp)
  · split
    · exact .kept _ (by simp)
    · rename_i inserted run
      obtain ⟨unseen, rfl⟩ := insertReceipt_inserted run
      exact .inserted unseen
    · refine .kept _ ?_
      intro result answered
      rw [PresentationTables.answerStored] at answered
      split at answered
      · cases answered
      · cases answered
      · cases answered
        exact storedAnswer_refuses _ _

/-- The calls of the two tables: receipts, and candidates that the other repositories
write. -/
inductive PresentationCall where
  | record (receipt : CandidatePresentationReceipt)
  | writeCandidate (row : PresentedCandidateRow)

namespace PresentationTables

def step (t : PresentationTables) : PresentationCall → PresentationTables
  | .record receipt => (t.recordPresentationReceipt receipt).2
  | .writeCandidate row => { t with candidates := t.candidates.set row.candidateId row }

def run (t : PresentationTables) (calls : List PresentationCall) : PresentationTables :=
  Runs.run step t calls

theorem step_keeps_receipt {t : PresentationTables} {key : String × String}
    {row : PresentationReceiptRow} (call : PresentationCall)
    (stored : t.receipts.rows.get? key = some row) :
    (t.step call).receipts.rows.get? key = some row := by
  cases call with
  | writeCandidate _ => exact stored
  | record receipt =>
      have effect := tables_effect t receipt
      rw [step]
      generalize t.recordPresentationReceipt receipt = recorded at effect ⊢
      cases effect with
      | kept answer refuses => exact stored
      | inserted unseen =>
          have other : key ≠ receipt.row.primaryKey := by
            intro here
            rw [here] at stored
            rw [show receipt.row.primaryKey = presentationReceiptIdentity receipt from rfl,
              unseen] at stored
            cases stored
          exact (Dict.get?_set_of_ne receipt.row other).trans stored

/-- An accepted receipt stands unchanged in the table. -/
theorem run_keeps_receipt {t : PresentationTables} {key : String × String}
    {row : PresentationReceiptRow} (calls : List PresentationCall)
    (stored : t.receipts.rows.get? key = some row) :
    (t.run calls).receipts.rows.get? key = some row :=
  Runs.invariant step (fun _ => True) (fun t => t.receipts.rows.get? key = some row)
    (fun _ call _ stored => step_keeps_receipt call stored) stored fun _ _ => trivial

end PresentationTables

/-! ## The stores stay in step -/

section
variable [Sha256]

theorem holds_after {t : PresentationTables} {s : IdeaRepository}
    {receipt : CandidatePresentationReceipt} (holds : t.Holds s)
    (alike : t.presentationDisposition receipt = s.presentationDisposition receipt) :
    (t.recordPresentationReceipt receipt).2.Holds (s.recordPresentationReceipt receipt).2 := by
  have tables := tables_effect t receipt
  have memory := presentation_effect s receipt
  rw [PresentationTables.presentationDisposition, IdeaRepository.presentationDisposition] at alike
  generalize t.recordPresentationReceipt receipt = recorded at tables alike ⊢
  generalize s.recordPresentationReceipt receipt = answered at memory alike ⊢
  cases memory with
  | written record unseen stored matching =>
      cases tables with
      | kept answer refuses =>
          exact absurd rfl (refuses _ (presentationDisposition_answered.mp alike))
      | inserted _ =>
          refine ⟨holds.candidates, ?_⟩
          intro key
          by_cases here : key = presentationReceiptIdentity receipt
          · subst here
            rw [Dict.get?_set_self]
            exact Dict.get?_set_self _ _ _
          · rw [Dict.get?_set_of_ne receipt here, ← holds.receipts key]
            exact Dict.get?_set_of_ne receipt.row here
  | refused error =>
      cases tables with
      | kept answer refuses => exact holds
      | inserted _ =>
          have accepted := presentationDisposition_answered.mp alike.symm
          cases accepted
  | answered result refuses =>
      cases tables with
      | kept answer _ => exact holds
      | inserted _ =>
          cases alike
          exact absurd rfl refuses

end

end LotusIdea

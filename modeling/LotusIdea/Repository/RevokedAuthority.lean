import LotusIdea.Foundation.VersionLedger
import LotusIdea.Repository.Runs

/-!
# Revoked authority stays revoked

Every reconciliation to a changed identity moves the version of a candidate up
and records it, so a grant that no longer names the candidate's evidence never
names it again, whatever evidence is presented later.
-/

set_option autoImplicit false

namespace LotusIdea

open IdeaRepository (PersistRequest ResultRequest)

section
variable [Sha256]

/-! ## What every record keeps -/

/-- The version history of a record, closed by an entry about its candidate. -/
structure Chronicled (r : CandidatePersistenceRecord) : Prop where
  increasing : (r.val.versionHistory.map CandidateVersionHistoryEntry.version).Pairwise (· < ·)
  last : ∃ entry, r.val.versionHistory.getLast? = some entry ∧
    entry.Tells r.val.candidate.val.identity

/-- The evidence of a decision is no later than the candidate's, and is the
candidate's when the versions agree. -/
def DecidedOn (id : String) (r : CandidatePersistenceRecord) : Prop :=
  ∀ decision ∈ r.val.reviewDecisions,
    decision.candidateEvidence.val.candidateId = id ∧
    VersionLedger.Issued CandidateEvidenceIdentity.version decision.candidateEvidence
      (CandidateEvidenceIdentity.fromCandidate r.val.candidate)

structure Recorded (id : String) (r : CandidatePersistenceRecord) : Prop where
  named : r.val.candidate.val.candidateId = id
  chronicled : Chronicled r
  decidedOn : DecidedOn id r

omit [Sha256] in
theorem Chronicled.ledger {r : CandidatePersistenceRecord} (chronicled : Chronicled r) :
    VersionLedger.Chronicle (r.val.versionHistory.map CandidateVersionHistoryEntry.version)
      r.val.candidate.version where
  increasing := chronicled.increasing
  last := by
    obtain ⟨entry, last, tells⟩ := chronicled.last
    rw [List.getLast?_map, last, Option.map_some, tells.version]
    rfl

omit [Sha256] in
theorem Chronicled.append {old new : CandidatePersistenceRecord}
    {entry : CandidateVersionHistoryEntry} (chronicled : Chronicled old)
    (history : new.val.versionHistory = old.val.versionHistory ++ [entry])
    (told : entry.Tells new.val.candidate.val.identity)
    (later : old.val.candidate.version < new.val.candidate.version) : Chronicled new := by
  have grown : entry.version = new.val.candidate.version := told.version
  have whole := chronicled.ledger.append (later.trans_eq grown.symm)
  constructor
  · rw [history, List.map_append]
    exact whole.increasing
  · exact ⟨entry, by rw [history, List.getLast?_concat], told⟩

omit [Sha256] in
theorem Chronicled.keep {old new : CandidatePersistenceRecord} (chronicled : Chronicled old)
    (history : new.val.versionHistory = old.val.versionHistory)
    (identity : new.val.candidate.val.identity = old.val.candidate.val.identity) :
    Chronicled new := by
  constructor
  · rw [history]
    exact chronicled.increasing
  · rw [history, identity]
    exact chronicled.last

theorem created_recorded {c : RepositoryCall} {id : String} {new : CandidatePersistenceRecord}
    (step : RecordStep c id none new) : Recorded id new := by
  cases step with
  | created q _ named entry candidate told history decisions _ =>
      refine ⟨by rw [candidate]; exact named, ⟨?_, ?_⟩, ?_⟩
      · rw [history]
        exact List.pairwise_singleton _ _
      · exact ⟨entry, by rw [history]; rfl, told⟩
      · intro decision member
        rw [decisions] at member
        cases member

/-- A decision is issued on the evidence of its time, and a later version leaves
it behind. -/
theorem step_recorded {c : RepositoryCall} {id : String} {old new : CandidatePersistenceRecord}
    (governed : c.Governed) (step : RecordStep c id (some old) new) (recorded : Recorded id old) :
    Recorded id new := by
  have named : new.val.candidate.val.candidateId = id :=
    (step.candidateId governed).trans recorded.named
  rcases step.moves governed with reconciled | standing
  · obtain ⟨entry, told, history⟩ := reconciled.history
    refine ⟨named, recorded.chronicled.append history told reconciled.next.later, ?_⟩
    intro decision member
    rw [reconciled.decisions] at member
    obtain ⟨own, issued⟩ := recorded.decidedOn decision member
    exact ⟨own, issued.advance reconciled.next.later⟩
  · refine ⟨named, recorded.chronicled.keep standing.history standing.candidate.identity, ?_⟩
    intro decision member
    rcases standing.decisions decision member with held | decided
    · rw [standing.candidate.evidence]
      exact recorded.decidedOn decision held
    · rw [decided]
      exact ⟨named, VersionLedger.Issued.refl _⟩

theorem recorded {calls : List RepositoryCall} (governed : ∀ c ∈ calls, c.Governed) {id : String}
    {record : CandidatePersistenceRecord}
    (stored : (IdeaRepository.empty.run calls).candidateRecords.get? id = some record) :
    Recorded id record :=
  run_records Recorded (fun _ _ _ _ step => created_recorded step)
    (fun _ _ _ _ good step before => step_recorded good step before) governed id stored

/-! ## Versions over a run -/

/-- Every record stays, at the same version or a later one. -/
def VersionsGrow (s later : IdeaRepository) : Prop :=
  ∀ id record, s.candidateRecords.get? id = some record →
    ∃ after, later.candidateRecords.get? id = some after ∧
      record.val.candidate.version ≤ after.val.candidate.version

theorem step_versionsGrow {s : IdeaRepository} (keyed : s.Keyed) {c : RepositoryCall}
    (governed : c.Governed) : VersionsGrow s (s.step c) := by
  intro id record stored
  rcases step_record keyed c id with same | ⟨new, now, step⟩
  · exact ⟨record, by rw [same]; exact stored, le_refl _⟩
  · refine ⟨new, now, ?_⟩
    rw [stored] at step
    rcases step.moves governed with reconciled | standing
    · exact le_of_lt reconciled.next.later
    · exact le_of_eq standing.candidate.version.symm

theorem VersionsGrow.trans {a b c : IdeaRepository} (first : VersionsGrow a b)
    (second : VersionsGrow b c) : VersionsGrow a c := by
  intro id record stored
  obtain ⟨middle, there, up⟩ := first id record stored
  obtain ⟨last, further, higher⟩ := second id middle there
  exact ⟨last, further, le_trans up higher⟩

theorem run_versionsGrow {s : IdeaRepository} (keyed : s.Keyed) {calls : List RepositoryCall}
    (governed : ∀ c ∈ calls, c.Governed) : VersionsGrow s (s.run calls) :=
  Runs.related IdeaRepository.step RepositoryCall.Governed IdeaRepository.Keyed VersionsGrow
    (fun _ _ record stored => ⟨record, stored, le_refl _⟩)
    (fun _ _ _ first second => first.trans second)
    (fun _ _ good keyed => keyed_after_step keyed good)
    (fun _ _ good keyed => step_versionsGrow keyed good) keyed governed

/-! ## Reconciliation and revocation -/

/-- A persisted candidate that changes the identity of a stored one extends its
version history by an entry about the new identity. -/
def ReconciliationRecorded (s : IdeaRepository) (id : String)
    (record : CandidatePersistenceRecord) : Prop :=
  ∀ (q : PersistRequest) (after : CandidatePersistenceRecord),
    (s.step (.mutate (.persistCandidate q))).candidateRecords.get? id = some after →
    after.val.candidate.val.identity ≠ record.val.candidate.val.identity →
    ∃ entry : CandidateVersionHistoryEntry,
      after.val.versionHistory = record.val.versionHistory ++ [entry] ∧
      entry.Tells after.val.candidate.val.identity ∧
      (after.val.versionHistory.map CandidateVersionHistoryEntry.version).Pairwise (· < ·)

theorem reconciliationRecorded {s : IdeaRepository} (keyed : s.Keyed) {id : String}
    {record : CandidatePersistenceRecord} (stored : s.candidateRecords.get? id = some record)
    (chronicled : Chronicled record) : ReconciliationRecorded s id record := by
  intro q after now changed
  rcases step_record keyed (.mutate (.persistCandidate q)) id with same | ⟨new, next, step⟩
  · rw [now, stored] at same
    cases same
    exact absurd rfl changed
  · rw [now] at next
    cases next
    rw [stored] at step
    have governed : RepositoryCall.Governed (.mutate (.persistCandidate q)) := trivial
    rcases step.moves governed with reconciled | standing
    · obtain ⟨entry, told, history⟩ := reconciled.history
      exact ⟨entry, history, told,
        (chronicled.append history told reconciled.next.later).increasing⟩
    · exact absurd standing.candidate.identity changed

/-- Revoked authority never comes back: in every run, the version history of each
record is strictly increasing and ends in the current identity, also after a
reconciliation, and a grant of one of its decisions that has been superseded is
active on no candidate of any later state. -/
theorem revoked_authority_stays_revoked (first later : List RepositoryCall)
    (governed : ∀ c ∈ first ++ later, c.Governed) (id : String)
    (record : CandidatePersistenceRecord)
    (stored : (IdeaRepository.empty.run first).candidateRecords.get? id = some record) :
    Chronicled record ∧
    ReconciliationRecorded (IdeaRepository.empty.run first) id record ∧
    ∀ decision ∈ record.val.reviewDecisions, ∀ grant,
      decision.authorityGrant = .ok (some grant) →
      ∀ evaluatedAtUtc,
        grant.effectiveStatus record.val.candidate evaluatedAtUtc = .ok .superseded →
        ∀ id' after laterEvaluatedAtUtc,
          (IdeaRepository.empty.run (first ++ later)).candidateRecords.get? id' = some after →
          grant.effectiveStatus after.val.candidate laterEvaluatedAtUtc ≠ .ok .active := by
  have governedFirst : ∀ c ∈ first, c.Governed := fun c member =>
    governed c (List.mem_append_left _ member)
  have governedLater : ∀ c ∈ later, c.Governed := fun c member =>
    governed c (List.mem_append_right _ member)
  have here := recorded governedFirst stored
  have keyed := keyed_after_run keyed_empty governedFirst
  refine ⟨here.chronicled, reconciliationRecorded keyed stored here.chronicled, ?_⟩
  intro decision member grant issuedBy evaluatedAtUtc superseded id' after laterTime found active
  obtain ⟨_, carries, isActive, _⟩ := GovernedReviewDecision.authorityGrant_returns issuedBy
  obtain ⟨own, issued⟩ := here.decidedOn decision member
  -- the grant names other evidence than the candidate's when it is superseded
  have stale : decision.candidateEvidence ≠
      CandidateEvidenceIdentity.fromCandidate record.val.candidate := by
    rw [← carries]
    exact ReviewAuthorityGrant.evidence_of_superseded isActive
      (ReviewAuthorityGrant.effectiveStatus_returns superseded).2
  -- an active grant names the later candidate, which therefore is the same one
  have names := ReviewAuthorityGrant.evidence_of_active
    (ReviewAuthorityGrant.effectiveStatus_returns active).2
  rw [carries] at names
  have there := recorded governed found
  have same : id' = id := by
    rw [← own, names, ← there.named]
    rfl
  subst same
  have grows : VersionsGrow (IdeaRepository.empty.run first)
      (IdeaRepository.empty.run (first ++ later)) := by
    rw [IdeaRepository.run_append]
    exact run_versionsGrow keyed governedLater
  obtain ⟨last, isLast, higher⟩ := grows _ record stored
  rw [found] at isLast
  cases isLast
  have upward : CandidateEvidenceIdentity.version
      (CandidateEvidenceIdentity.fromCandidate record.val.candidate) ≤
      CandidateEvidenceIdentity.version
        (CandidateEvidenceIdentity.fromCandidate after.val.candidate) := higher
  exact issued.never_again stale upward names

end

/-! ## An approval that a material change takes back -/

def sampleDigest (digit : Char) : String := "sha256:" ++ String.ofList (List.replicate 64 digit)

def sampleSourceRef : SourceRef where
  val :=
    { productId := "holdings", sourceSystem := .lotusCore, productVersion := "v1"
      route := "/portfolios/portfolio-1/holdings", asOfDate := ⟨20000⟩
      generatedAtUtc := .utc 0, contentHash := sampleDigest 'a'
      dataQualityStatus := "complete", freshness := .current
      revisionClaims := some
        ⟨{ snapshotId := some "snapshot-1", reconciliationPosture := .complete }, by decide⟩ }
  valid := by decide +kernel

def sampleLineageRef : LineageRef where
  val :=
    { lineageId := "lineage-1", sourceRefs := [sampleSourceRef], contentHash := sampleDigest 'c' }
  valid := by decide +kernel

def sampleEvidencePacket : IdeaEvidencePacket where
  val :=
    { evidencePacketId := "packet-1", supportability := .ready, sourceRefs := [sampleSourceRef]
      lineageRef := sampleLineageRef, reasonCodes := [.highCashRatio], createdAtUtc := .utc 0 }
  valid := by decide +kernel

/-- The condition as first detected, and after a material change. -/
def sampleIdentity (changed : Bool) : CandidateIdentity where
  val :=
    { businessIdentityId := "business-1", policyVersion := opportunityIdentityPolicyVersion
      materialFingerprint := sampleDigest (if changed then 'e' else 'd')
      materialVersion := 1, evidenceVersion := 1, changeReason := .initialDetection }
  valid := by cases changed <;> decide +kernel

def sampleScope : ReviewAccessScope where
  val :=
    { tenantId := "tenant-a", bookId := "book-1", portfolioId := "portfolio-1"
      clientId := "client-1" }
  valid := by decide

def sampleCandidate (changed : Bool) : IdeaCandidate where
  val :=
    { candidateId := "idea-1", identity := sampleIdentity changed, family := .highCash
      lifecycleStatus := .readyForReview, reviewPosture := .advisorReviewRequired
      evidencePacket := sampleEvidencePacket, sourceSignalIds := ["signal-1"]
      accessScope := some sampleScope, createdAtUtc := .utc 0, updatedAtUtc := .utc 0 }
  valid := by cases changed <;> decide +kernel

def sampleLineage : EventLineageContext where
  val := { correlationId := "correlation-1", traceId := "trace-1" }
  valid := by decide +kernel

def sampleOperator : ReviewActorContext where
  val :=
    { actorSubject := "operator-1", role := .operator, tenantIds := ["tenant-a"]
      bookIds := ["book-1"], portfolioIds := ["portfolio-1"], clientIds := ["client-1"] }
  valid := by decide

def sampleReviewPolicy : ReviewActionPolicy where
  val := { allowedRolesByAction := fun _ => [.operator] }
  valid := by decide

section
variable [Sha256]

def samplePersistRequest (key : String) (changed : Bool) (occurredAt : Int) : PersistRequest where
  idempotencyKey := key
  payload := .obj []
  eventLineage := some sampleLineage
  candidate := sampleCandidate changed
  actorSubject := "signal-engine"
  occurredAtUtc := .utc occurredAt

def samplePersist (key : String) (changed : Bool) (occurredAt : Int) : RepositoryCall :=
  .mutate (.persistCandidate (samplePersistRequest key changed occurredAt))

/-- The call that records a result of the domain, when there is one. -/
def recording {α : Type} (key : String) (call : ResultRequest α → MutationCall) :
    Except PyError α → List RepositoryCall
  | .error _ => []
  | .ok result =>
      [.mutate (call
        { idempotencyKey := key, payload := .obj [], eventLineage := some sampleLineage
          result := result })]

def sampleReview : Except PyError ReviewActionResult := do
  let command ← Checked.make ReviewDecisionCommandFields.checks
    { reviewId := "review-1", action := .approveForConversion, actor := sampleOperator
      reasonCodes := [.highCashRatio], decidedAtUtc := .utc 20
      expectedCandidateEvidence := CandidateEvidenceIdentity.fromCandidate (sampleCandidate false)
      reviewChannel := .operator, presentationReceiptId := none }
  applyReviewAction (sampleCandidate false) command (.utc 20) none sampleReviewPolicy

/-- A candidate is persisted and approved. -/
def sampleApproved : List RepositoryCall :=
  samplePersist "persist-1" false 10 :: recording "review-1" .recordReviewAction sampleReview

theorem recording_governed {α : Type} {key : String} {call : ResultRequest α → MutationCall}
    {result : Except PyError α}
    (governed : ∀ q, result = .ok q.result → (call q).Governed) :
    ∀ c ∈ recording key call result, c.Governed := by
  cases run : result with
  | error raised =>
      intro c member
      cases member
  | ok value =>
      intro c member
      rw [recording, List.mem_singleton] at member
      subst member
      exact governed _ run

theorem sampleApproved_governed : ∀ c ∈ sampleApproved, c.Governed := by
  refine List.forall_mem_cons.mpr ⟨trivial, recording_governed ?_⟩
  intro q run
  simp only [sampleReview] at run
  obtain ⟨command, _, run⟩ := Except.seq_returns.mp run
  exact ⟨_, _, _, _, _, run⟩

/-- Some grant of the record's decisions evaluates to `status`. -/
def holdsGrant (record : CandidatePersistenceRecord) (status : ReviewAuthorityStatus)
    (evaluatedAtUtc : DateTime) : Bool :=
  record.val.reviewDecisions.any fun decision =>
    match decision.authorityGrant with
    | .ok (some grant) => grant.statusAt record.val.candidate evaluatedAtUtc = status
    | _ => false

/-- The approved candidate is detected again with another material fingerprint. -/
def sampleChanged : List RepositoryCall := sampleApproved ++ [samplePersist "persist-2" true 25]

end

section Sample

local instance revokedSha256 : Sha256 := Sha256.zeros

set_option maxRecDepth 10000 in
theorem sampleChanged_stored :
    ((IdeaRepository.empty.run sampleChanged).candidateRecords.get? "idea-1").any
      (fun record => holdsGrant record .superseded (.utc 26)) = true := by
  decide +kernel

/-- The earlier evidence comes back and leaves the grant without authority. -/
theorem revoked_authority_stays_revoked_sample : ∃ record,
    (IdeaRepository.empty.run sampleChanged).candidateRecords.get? "idea-1" = some record ∧
    holdsGrant record .superseded (.utc 26) = true ∧
    Chronicled record ∧
    ReconciliationRecorded (IdeaRepository.empty.run sampleChanged) "idea-1" record ∧
    ∀ decision ∈ record.val.reviewDecisions, ∀ grant,
      decision.authorityGrant = .ok (some grant) →
      grant.effectiveStatus record.val.candidate (.utc 26) = .ok .superseded →
      ∀ id' after laterEvaluatedAtUtc,
        (IdeaRepository.empty.run (sampleChanged ++
          [samplePersist "persist-3" false 30])).candidateRecords.get? id' = some after →
        grant.effectiveStatus after.val.candidate laterEvaluatedAtUtc ≠ .ok .active := by
  have governed : ∀ c ∈ sampleChanged ++ [samplePersist "persist-3" false 30], c.Governed := by
    intro c member
    simp only [sampleChanged, List.mem_append, List.mem_singleton] at member
    rcases member with (approved | rfl) | rfl
    · exact sampleApproved_governed c approved
    · trivial
    · trivial
  obtain ⟨record, stored, holds⟩ := (Option.any_eq_true _ _).mp sampleChanged_stored
  obtain ⟨chronicled, reconciled, revoked⟩ := revoked_authority_stays_revoked sampleChanged
    [samplePersist "persist-3" false 30] governed "idea-1" record stored
  exact ⟨record, stored, holds, chronicled, reconciled,
    fun decision member grant issued superseded =>
      revoked decision member grant issued (.utc 26) superseded⟩

end Sample

end LotusIdea

import LotusIdea.Domain.SourceEvidence
import LotusIdea.Repository.OutboxFreshness
import LotusIdea.Repository.Suppression

/-!
# Replaying evidence

`replay_evidence` of `persistence.py` compares the sources that a caller reads now with
those of the stored candidate.  The hash that a record keeps beside its candidate is
refreshed by every operation that replaces the evidence, so the comparison and the one
that a reconciliation makes agree.
-/

set_option autoImplicit false

namespace LotusIdea

open IdeaRepository (PersistRequest)

/-! ## The operation -/

inductive EvidenceReplayStatus where
  | matched
  | staleSource
  | hashMismatch
  | expired
  | notFound
  deriving DecidableEq, Repr

structure EvidenceReplayResult where
  status : EvidenceReplayStatus
  record : Option CandidatePersistenceRecord
  currentEvidenceHash : Option String := none

namespace CandidatePersistenceRecord

def sourceRefs (record : CandidatePersistenceRecord) : List SourceRef :=
  record.val.candidate.val.evidencePacket.val.sourceRefs

/-- The candidate has expired, or its evidence does not apply any more. -/
def ExpiredAt (record : CandidatePersistenceRecord) (evaluatedAtUtc : DateTime) : Prop :=
  record.val.candidate.val.lifecycleStatus = .expired ∨
    record.val.candidate.val.evidencePacket.val.applicabilityExpiresAtUtc.any
      (fun expiry => expiry ≤ evaluatedAtUtc) = true

instance (record : CandidatePersistenceRecord) (evaluatedAtUtc : DateTime) :
    Decidable (record.ExpiredAt evaluatedAtUtc) := inferInstanceAs (Decidable (_ ∨ _))

/-- `is_expired_at`. -/
def isExpiredAt (record : CandidatePersistenceRecord) (evaluatedAtUtc : DateTime) :
    Except PyError Bool := do
  validate (requireAwareUtc evaluatedAtUtc "evaluated_at_utc")
  return decide (record.ExpiredAt evaluatedAtUtc)

end CandidatePersistenceRecord

section
variable [Sha256]

namespace IdeaRepository

def replayEvidence (s : IdeaRepository) (candidateId : String)
    (currentSourceRefs : List SourceRef) (evaluatedAtUtc : DateTime) :
    Except PyError EvidenceReplayResult := do
  validate [requireText candidateId "candidate_id"]
  validate (requireAwareUtc evaluatedAtUtc "evaluated_at_utc")
  match s.candidateRecords.get? candidateId with
  | none => return { status := .notFound, record := none }
  | some record =>
      let expired ← record.isExpiredAt evaluatedAtUtc
      if expired then return { status := .expired, record := some record }
      else if currentSourceRefs.any fun r => r.val.freshness ≠ .current then
        return { status := .staleSource, record := some record }
      else do
        validate (uniqueSourceChecks currentSourceRefs)
        let currentHash := evidenceHashForSourceRefs currentSourceRefs
        if currentHash = evidenceHashForSourceRefs record.sourceRefs then
          return { status := .matched, record := some record
                   currentEvidenceHash := some record.val.evidenceHash }
        else
          return { status := .hashMismatch, record := some record
                   currentEvidenceHash := some currentHash }

end IdeaRepository

/-! ## The hash beside the candidate -/

/-- The hash of a record is that of its candidate's sources, and the one that its last
version was recorded with. -/
structure HashHeld (record : CandidatePersistenceRecord) : Prop where
  own : record.val.evidenceHash = evidenceHashForSourceRefs record.sourceRefs
  last : ∃ entry, record.val.versionHistory.getLast? = some entry ∧
    entry.val.evidenceHash = record.val.evidenceHash

theorem HashHeld.keep {old new : CandidatePersistenceRecord} (held : HashHeld old)
    (hash : new.val.evidenceHash = old.val.evidenceHash)
    (history : new.val.versionHistory = old.val.versionHistory)
    (sources : evidenceHashForSourceRefs new.sourceRefs =
      evidenceHashForSourceRefs old.sourceRefs) : HashHeld new where
  own := by rw [hash, held.own, sources]
  last := by
    rw [history, hash]
    exact held.last

/-- A version is recorded with the hash that the record takes on. -/
theorem HashHeld.appended {record : CandidatePersistenceRecord} {evidenceHash : String}
    {candidate : IdeaCandidate} {source : Option IdeaLifecycleStatus} {time : DateTime}
    {entry : CandidateVersionHistoryEntry} (earlier : List CandidateVersionHistoryEntry)
    (told : CandidateVersionHistoryEntry.ofCandidate candidate evidenceHash source time =
      .ok entry)
    (own : evidenceHash = evidenceHashForSourceRefs record.sourceRefs)
    (hash : record.val.evidenceHash = evidenceHash)
    (history : record.val.versionHistory = earlier ++ [entry]) : HashHeld record where
  own := hash.trans own
  last := by
    refine ⟨entry, by rw [history, List.getLast?_concat], ?_⟩
    rw [Checked.make_eq_ok.mp told, hash]

/-- Candidates that compare equal have one evidence hash. -/
theorem evidenceHash_of_equals {a b : IdeaCandidate} (same : a.equals b = true) :
    evidenceHashForSourceRefs a.val.evidencePacket.val.sourceRefs =
      evidenceHashForSourceRefs b.val.evidencePacket.val.sourceRefs :=
  IdeaCandidate.congr_of_equals same
    (fun c => evidenceHashForSourceRefs c.val.evidencePacket.val.sourceRefs)
    fun c => evidenceHashForSourceRefs_inUtc c.val.evidencePacket.val.sourceRefs

omit [Sha256] in
/-- A reconciled candidate stands on the evidence that came in. -/
theorem reconciled_evidencePacket {existing incoming next : IdeaCandidate}
    {occurredAtUtc : DateTime} (reconciled : ReconciledAs existing incoming occurredAtUtc next) :
    next.val.evidencePacket = incoming.val.evidencePacket := by
  cases reconciled with
  | refreshed identity stays made => rw [Checked.make_eq_ok.mp made]
  | renewed reason starts made =>
      simp only [newMaterialVersion] at made
      obtain ⟨identity, _, made⟩ := Except.seq_returns.mp made
      rw [Checked.make_eq_ok.mp made]

/-- An operation on a candidate that equals the stored one, and that keeps its evidence,
keeps the evidence hash. -/
theorem evidenceHash_of_kept {stored source new : IdeaCandidate}
    (same : stored.equals source = true) (kept : SameEvidence source new) :
    evidenceHashForSourceRefs new.val.evidencePacket.val.sourceRefs =
      evidenceHashForSourceRefs stored.val.evidencePacket.val.sourceRefs := by
  rw [kept.evidencePacket]
  exact (evidenceHash_of_equals same).symm

omit [Sha256] in
theorem transitionRecord_kept {old updated : CandidatePersistenceRecord}
    {targetStatus : IdeaLifecycleStatus} {actorSubject : String} {occurredAtUtc : DateTime}
    {attributes : List (String × String)} {auditEvent : AuditEvent}
    (run : IdeaRepository.transitionRecord old targetStatus actorSubject occurredAtUtc attributes =
      .ok (updated, auditEvent)) :
    updated.val.evidenceHash = old.val.evidenceHash ∧
      updated.val.versionHistory = old.val.versionHistory ∧
      updated.sourceRefs = old.sourceRefs := by
  obtain ⟨candidate, entry, moved, fields⟩ := (transitionRecord_moved run).record
  have packet := (transitionCandidate_sameEvidence moved).evidencePacket
  rw [CandidatePersistenceRecord.sourceRefs, CandidatePersistenceRecord.sourceRefs, fields]
  exact ⟨rfl, rfl, by rw [packet]⟩

theorem HashHeld.transitioned {old updated : CandidatePersistenceRecord}
    {targetStatus : IdeaLifecycleStatus} {actorSubject : String} {occurredAtUtc : DateTime}
    {attributes : List (String × String)} {auditEvent : AuditEvent} (held : HashHeld old)
    (run : IdeaRepository.transitionRecord old targetStatus actorSubject occurredAtUtc attributes =
      .ok (updated, auditEvent)) : HashHeld updated := by
  obtain ⟨hash, history, sources⟩ := transitionRecord_kept run
  exact held.keep hash history (by rw [sources])

namespace IdeaRepository

def HashesHeld (s : IdeaRepository) : Prop :=
  ∀ id record, s.candidateRecords.get? id = some record → HashHeld record

theorem write_hash {s : IdeaRepository} (held : s.HashesHeld) {c : MutationCall}
    (governed : c.Governed) {m : AcceptedMutation} (planned : c.plan s = .ok (.accept m)) :
    HashHeld m.record := by
  obtain ⟨writes, _⟩ := mutation_writes planned
  cases writes with
  | created q entry auditEvent _ _ told record _ =>
      refine HashHeld.appended [] told ?_ (by rw [record]) (by rw [record]; rfl)
      rw [CandidatePersistenceRecord.sourceRefs, record]
  | reconciled q old candidate entry auditEvent stored _ told record _ =>
      obtain ⟨own, reconciles⟩ := persist_reconciles planned
      rw [own] at stored
      obtain ⟨reconciliation, reconciled, next⟩ := reconciles old stored
      have packet := reconciled_evidencePacket (reconcileCandidate_reconciled reconciled next)
      refine HashHeld.appended old.val.versionHistory told ?_ (by rw [record]) (by rw [record])
      rw [CandidatePersistenceRecord.sourceRefs, packet]
  | transitioned q old attributes stored _ moved _ =>
      exact (held _ old stored).transitioned moved
  | reviewed q old history _ stored _ source record _ =>
      obtain ⟨candidate, command, acceptedAtUtc, receipt, policy, run⟩ := governed
      obtain ⟨own, kept, _⟩ := applyReviewAction_returns run
      rw [own] at source
      refine (held _ old stored).keep (by rw [record]) (by rw [record]) ?_
      rw [CandidatePersistenceRecord.sourceRefs, record]
      exact evidenceHash_of_kept source kept
  | converted q old history grant _ stored source _ _ record _ =>
      obtain ⟨candidate, command, acceptedAtUtc, carried, run⟩ := governed
      obtain ⟨own, kept, _⟩ := requestConversionIntent_returns run
      rw [own] at source
      refine (held _ old stored).keep (by rw [record]) (by rw [record]) ?_
      rw [CandidatePersistenceRecord.sourceRefs, record]
      exact evidenceHash_of_kept source kept
  | feedback q old _ stored _ record _ | outcome q old _ stored _ _ record _
  | packed q old _ stored record _ =>
      refine (held _ old stored).keep (by rw [record]) (by rw [record]) ?_
      rw [CandidatePersistenceRecord.sourceRefs, record]
      rfl

theorem hashes_after_step {s : IdeaRepository} (keyed : s.Keyed) (held : s.HashesHeld)
    {c : RepositoryCall} (governed : c.Governed) : (s.step c).HashesHeld := by
  have after := records_after_step keyed c
  rw [HashesHeld]
  generalize (s.step c).candidateRecords = records at after ⊢
  cases after with
  | same => exact held
  | written call isCall m planned =>
      subst isCall
      exact Dict.forall_get?_set held (write_hash held governed planned)
  | moved q isCall record updated auditEvent stored moved =>
      exact Dict.forall_get?_set held ((held _ record stored).transitioned moved)
  | explained q isCall lineage record updated accepted =>
      refine Dict.forall_get?_set held ((held _ record accepted.stored).keep ?_ ?_ ?_)
      · rw [accepted.fields]
      · rw [accepted.fields]
      · rw [CandidatePersistenceRecord.sourceRefs, accepted.fields]
        rfl

theorem run_hashesHeld {calls : List RepositoryCall} (governed : ∀ c ∈ calls, c.Governed) :
    (empty.run calls).HashesHeld := by
  have initially : empty.Keyed ∧ empty.HashesHeld := by
    refine ⟨keyed_empty, ?_⟩
    intro id record stored
    cases stored
  have both := Runs.invariant step RepositoryCall.Governed (fun s => s.Keyed ∧ s.HashesHeld)
    (fun s c good inv => ⟨keyed_after_step inv.1 good, hashes_after_step inv.1 inv.2 good⟩)
    initially governed
  exact both.2

end IdeaRepository

/-! ## What a replay answers -/

/-- References that a replay compares: some, all current, of distinct identities, and
with dates of the calendar. -/
structure CurrentSources (sourceRefs : List SourceRef) : Prop where
  nonempty : sourceRefs ≠ []
  current : ∀ r ∈ sourceRefs, r.val.freshness = .current
  unique : (sourceRefs.map SourceRef.identity).Nodup
  dated : Dated sourceRefs

theorem replayEvidence_compares {s : IdeaRepository} {candidateId : String}
    {record : CandidatePersistenceRecord} {sourceRefs : List SourceRef} {evaluatedAtUtc : DateTime}
    (filled : PyText.isBlank candidateId = false)
    (stored : s.candidateRecords.get? candidateId = some record)
    (utc : evaluatedAtUtc.isUtc = true) (applies : ¬ record.ExpiredAt evaluatedAtUtc)
    (sources : CurrentSources sourceRefs) :
    s.replayEvidence candidateId sourceRefs evaluatedAtUtc = .ok
      (if evidenceHashForSourceRefs sourceRefs = evidenceHashForSourceRefs record.sourceRefs then
        ⟨.matched, some record, some record.val.evidenceHash⟩
      else ⟨.hashMismatch, some record, some (evidenceHashForSourceRefs sourceRefs)⟩) := by
  have named : validate [requireText candidateId "candidate_id"] = .ok () := by
    simp [validate_eq_ok, filled]
  have timed : validate (requireAwareUtc evaluatedAtUtc "evaluated_at_utc") = .ok () := by
    simp [validate_eq_ok, utc]
  have distinct : validate (uniqueSourceChecks sourceRefs) = .ok () := by
    simp [validate_eq_ok, uniqueSourceChecks, sources.nonempty, sources.unique]
  have fresh : (sourceRefs.any fun r => decide (r.val.freshness ≠ .current)) = false := by
    rw [List.any_eq_false]
    intro r listed
    simp [sources.current r listed]
  have unexpired : record.isExpiredAt evaluatedAtUtc = .ok false := by
    simp only [CandidatePersistenceRecord.isExpiredAt, timed, decide_eq_false applies]
    rfl
  simp only [IdeaRepository.replayEvidence, named, timed, stored, unexpired, fresh, distinct,
    Json.ok_bind, Bool.false_eq_true, if_false]
  by_cases same : evidenceHashForSourceRefs sourceRefs = evidenceHashForSourceRefs record.sourceRefs
  · rw [if_pos same, if_pos same]
    rfl
  · rw [if_neg same, if_neg same]
    rfl

/-! ## What a persistence answers -/

/-- A request to persist that passes the checks before the reconciliation, under a key
that is new to its tenant. -/
structure PersistAdmitted (s : IdeaRepository) (q : PersistRequest) (scope : ReviewAccessScope) :
    Prop where
  filled : PyText.isBlank q.idempotencyKey = false
  actor : PyText.isBlank q.actorSubject = false
  authoritative : IdeaRepository.requireAuthoritativeScope q.candidate = .ok scope
  utc : q.occurredAtUtc.isUtc = true
  unseen : s.idempotencyRecords.get? (tenantStorageKey scope.val.tenantId q.idempotencyKey) = none

/-- The incoming candidate is the stored one detected again: of one business scope,
identity policy, material condition and applicability. -/
structure DetectedAgain (existing incoming : IdeaCandidate) : Prop where
  scope : sameBusinessScope existing incoming = true
  policy : existing.val.identity.val.policyVersion = incoming.val.identity.val.policyVersion
  material : incoming.val.identity.val.materialFingerprint =
    existing.val.identity.val.materialFingerprint
  applicability : expiryChanged existing incoming = false

theorem persist_reconcilePlan {s : IdeaRepository} {q : PersistRequest} {scope : ReviewAccessScope}
    {record : CandidatePersistenceRecord} (admitted : PersistAdmitted s q scope)
    (stored : s.candidateRecords.get? q.candidate.val.candidateId = some record) :
    s.persistCandidate q = s.runPlan (IdeaRepository.reconcilePlan record q
      (tenantStorageKey scope.val.tenantId q.idempotencyKey)
      (keyRecord q.idempotencyKey q.payload)) := by
  have texts : validate [requireText q.idempotencyKey "idempotency_key",
      requireText q.actorSubject "actor_subject"] = .ok () := by
    simp [validate_eq_ok, admitted.filled, admitted.actor]
  have timed : validate (requireAwareUtc q.occurredAtUtc "occurred_at_utc") = .ok () := by
    simp [validate_eq_ok, admitted.utc]
  have admission := admit_eq s q.payload (scope_tenant_not_blank scope) admitted.filled
  rw [admitted.unseen] at admission
  simp only [IdeaRepository.persistCandidate, IdeaRepository.persistPlan, texts,
    admitted.authoritative, timed, Json.ok_bind, admission, stored]

theorem reconciledPlan_accepts {existing : CandidatePersistenceRecord} {q : PersistRequest}
    {decision : PersistenceDecision} {candidate : IdeaCandidate} {storageKey : String}
    {idempotencyRecord : IdempotencyRecord} {plan : MutationPlan}
    (run : IdeaRepository.reconciledPlan existing q decision candidate storageKey
      idempotencyRecord = .ok plan) :
    ∃ m, plan = .accept m ∧ m.decision = decision := by
  simp only [IdeaRepository.reconciledPlan] at run
  obtain ⟨eventType, _, run⟩ := Except.seq_returns.mp run
  obtain ⟨auditEvent, _, run⟩ := Except.seq_returns.mp run
  obtain ⟨entry, _, run⟩ := Except.seq_returns.mp run
  obtain ⟨record, _, run⟩ := Except.seq_returns.mp run
  cases run
  exact ⟨_, rfl, rfl⟩

theorem commit_decision {s : IdeaRepository} {m : AcceptedMutation} {answer : PersistenceResult}
    (returned : (s.commit (.accept m)).1 = .ok answer) : answer.decision = m.decision := by
  simp only [IdeaRepository.commit] at returned
  split at returned
  · cases returned
  · cases returned
    rfl

/-- The repository answers that the candidate is a duplicate. -/
def AnswersDuplicate (s : IdeaRepository) (q : PersistRequest) : Prop :=
  ∃ answer, (s.persistCandidate q).1 = .ok answer ∧ answer.decision = .duplicateCandidate

/-- A condition that is detected again is a duplicate exactly when its evidence has the
hash of the record. -/
theorem answersDuplicate_iff {s : IdeaRepository} {q : PersistRequest} {scope : ReviewAccessScope}
    {record : CandidatePersistenceRecord} (admitted : PersistAdmitted s q scope)
    (stored : s.candidateRecords.get? q.candidate.val.candidateId = some record)
    (again : DetectedAgain record.val.candidate q.candidate) :
    AnswersDuplicate s q ↔
      evidenceHashForSourceRefs q.candidate.val.evidencePacket.val.sourceRefs =
        record.val.evidenceHash := by
  have unchanged : materialChanged record.val.candidate q.candidate = false := by
    simp [materialChanged, again.material]
  have reconciles : ∀ incomingHash : String,
      reconcileCandidate record.val.candidate q.candidate record.val.evidenceHash incomingHash
        q.occurredAtUtc =
      if incomingHash = record.val.evidenceHash then .ok ⟨.duplicateCandidate, none⟩
      else do
        let candidate ← refreshEvidence record.val.candidate q.candidate q.occurredAtUtc
        return ⟨.evidenceRefreshed, some candidate⟩ := by
    intro incomingHash
    simp [reconcileCandidate, again.scope, again.policy, unchanged, again.applicability]
  rw [AnswersDuplicate, persist_reconcilePlan admitted stored]
  simp only [IdeaRepository.reconcilePlan, reconciles]
  by_cases same : evidenceHashForSourceRefs q.candidate.val.evidencePacket.val.sourceRefs =
      record.val.evidenceHash
  · rw [if_pos same]
    exact iff_of_true ⟨_, rfl, rfl⟩ same
  · rw [if_neg same]
    refine iff_of_false ?_ same
    rintro ⟨answer, returned, decision⟩
    cases made : refreshEvidence record.val.candidate q.candidate q.occurredAtUtc with
    | error raised =>
        rw [made] at returned
        cases returned
    | ok candidate =>
        simp only [made, Json.ok_bind] at returned
        change (s.runPlan (IdeaRepository.reconciledPlan record q .evidenceRefreshed candidate
          _ _)).1 = .ok answer at returned
        cases planned : IdeaRepository.reconciledPlan record q .evidenceRefreshed candidate
            (tenantStorageKey scope.val.tenantId q.idempotencyKey)
            (keyRecord q.idempotencyKey q.payload) with
        | error raised =>
            rw [planned] at returned
            cases returned
        | ok plan =>
            obtain ⟨m, rfl, refreshed⟩ := reconciledPlan_accepts planned
            rw [planned] at returned
            have answered := commit_decision returned
            rw [decision, refreshed] at answered
            cases answered

/-- Under another identity policy no candidate is a duplicate. -/
theorem not_duplicate_of_policy {s : IdeaRepository} {q : PersistRequest}
    {scope : ReviewAccessScope} {record : CandidatePersistenceRecord}
    (admitted : PersistAdmitted s q scope)
    (stored : s.candidateRecords.get? q.candidate.val.candidateId = some record)
    (policy : record.val.candidate.val.identity.val.policyVersion ≠
      q.candidate.val.identity.val.policyVersion)
    (upgrade : isSupportedPolicyUpgrade record.val.candidate q.candidate = false) :
    ¬ AnswersDuplicate s q := by
  rintro ⟨answer, returned, decision⟩
  have refused : ∀ incomingHash : String,
      reconcileCandidate record.val.candidate q.candidate record.val.evidenceHash incomingHash
        q.occurredAtUtc = .ok ⟨.identityConflict, none⟩ := by
    intro incomingHash
    simp [reconcileCandidate, policy, upgrade]
  rw [persist_reconcilePlan admitted stored] at returned
  simp only [IdeaRepository.reconcilePlan, refused, Json.ok_bind] at returned
  cases returned
  cases decision

/-! ## Evidence replay is exact -/

/-- The hash beside a candidate is the one of its sources and of its last version; and a
replay that compares sources finds a match exactly when they agree one to one, and when
a condition that is detected again with them is a duplicate. -/
structure EvidenceExact (s : IdeaRepository) (candidateId : String)
    (record : CandidatePersistenceRecord) : Prop where
  held : HashHeld record
  replayed : ∀ (evaluatedAtUtc : DateTime) (sourceRefs : List SourceRef),
    evaluatedAtUtc.isUtc = true → ¬ record.ExpiredAt evaluatedAtUtc → CurrentSources sourceRefs →
    ∃ result, s.replayEvidence candidateId sourceRefs evaluatedAtUtc = .ok result ∧
      result.record = some record ∧
      result.status =
        (if SourcesAgreeUnordered sourceRefs record.sourceRefs then .matched else .hashMismatch) ∧
      ∀ (q : PersistRequest) (scope : ReviewAccessScope), PersistAdmitted s q scope →
        DetectedAgain record.val.candidate q.candidate →
        q.candidate.val.evidencePacket.val.sourceRefs = sourceRefs →
        (AnswersDuplicate s q ↔ result.status = .matched)

/-- In every reachable state. -/
theorem evidence_replay_exact (collisionFree : Sha256.CollisionFree 64)
    (calls : List RepositoryCall) (governed : ∀ c ∈ calls, c.Governed) (candidateId : String)
    (record : CandidatePersistenceRecord)
    (stored : (IdeaRepository.empty.run calls).candidateRecords.get? candidateId = some record)
    (dated : Dated record.sourceRefs) :
    EvidenceExact (IdeaRepository.empty.run calls) candidateId record := by
  have held := IdeaRepository.run_hashesHeld governed candidateId record stored
  have named : record.val.candidate.val.candidateId = candidateId :=
    keyed_after_run keyed_empty governed candidateId record stored
  have filled : PyText.isBlank candidateId = false := by
    rw [← named]
    exact candidateId_not_blank record.val.candidate
  refine ⟨held, ?_⟩
  intro evaluatedAtUtc sourceRefs utc applies sources
  have exact_ := evidenceHash_eq_iff collisionFree sources.unique sources.dated dated
  refine ⟨_, replayEvidence_compares filled stored utc applies sources, ?_⟩
  have persists : ∀ (q : PersistRequest) (scope : ReviewAccessScope),
      PersistAdmitted (IdeaRepository.empty.run calls) q scope →
      DetectedAgain record.val.candidate q.candidate →
      q.candidate.val.evidencePacket.val.sourceRefs = sourceRefs →
      (AnswersDuplicate (IdeaRepository.empty.run calls) q ↔
        SourcesAgreeUnordered sourceRefs record.sourceRefs) := by
    intro q scope admitted again given
    have own : q.candidate.val.candidateId = candidateId :=
      (sameBusinessScope_keeps again.scope).1.trans named
    rw [answersDuplicate_iff admitted (by rw [own]; exact stored) again, given, held.own]
    exact exact_
  by_cases agree : SourcesAgreeUnordered sourceRefs record.sourceRefs
  · rw [if_pos (exact_.mpr agree), if_pos agree]
    refine ⟨rfl, rfl, ?_⟩
    intro q scope admitted again given
    exact iff_of_true ((persists q scope admitted again given).mpr agree) rfl
  · rw [if_neg (mt exact_.mp agree), if_neg agree]
    refine ⟨rfl, rfl, ?_⟩
    intro q scope admitted again given
    exact iff_of_false (mt (persists q scope admitted again given).mp agree) (by simp)

omit [Sha256] in
theorem scope_of_authoritative {c : IdeaCandidate} {scope own : ReviewAccessScope}
    (authoritative : IdeaRepository.requireAuthoritativeScope c = .ok scope)
    (carried : c.val.accessScope = some own) : own = scope := by
  simp only [IdeaRepository.requireAuthoritativeScope, carried] at authoritative
  split at authoritative
  · cases authoritative
    rfl
  · cases authoritative

/-- A candidate that is not stored is stored by its first admitted persistence, which
binds its own key only. -/
theorem persist_stores {s : IdeaRepository} (keyed : s.Keyed) {q : PersistRequest}
    {scope : ReviewAccessScope} (admitted : PersistAdmitted s q scope)
    (absent : s.candidateRecords.get? q.candidate.val.candidateId = none) :
    ∃ record, (s.step (.mutate (.persistCandidate q))).candidateRecords.get?
        q.candidate.val.candidateId = some record ∧
      record.val.candidate = q.candidate ∧
      ∀ storageKey, storageKey ≠ tenantStorageKey scope.val.tenantId q.idempotencyKey →
        (s.step (.mutate (.persistCandidate q))).idempotencyRecords.get? storageKey =
          s.idempotencyRecords.get? storageKey := by
  obtain ⟨m, planned⟩ := persistPlan_accepts admitted.authoritative admitted.filled admitted.actor
    admitted.utc admitted.unseen absent
  have isPlan : MutationCall.plan s (.persistCandidate q) = .ok (.accept m) := planned
  have accepted : Accepted s (.persistCandidate q) m := plan_sound isPlan
  have own := (persist_reconciles planned).1
  obtain ⟨writes, bound, binds⟩ := mutation_writes isPlan
  have candidate : m.record.val.candidate = q.candidate := by
    cases writes with
    | created _ entry auditEvent _ _ _ record _ => rw [record]
    | reconciled _ old _ entry auditEvent stored _ _ _ _ =>
        rw [own, absent] at stored
        cases stored
  have storageKey : m.storageKey = tenantStorageKey scope.val.tenantId q.idempotencyKey := by
    have tenant := binds.tenant
    simp only [scopedCandidate, own, absent, Option.getD_none, candidate] at tenant
    rw [binds.fresh.shape, scope_of_authoritative admitted.authoritative tenant]
    rfl
  have written : (s.write m).candidateRecords.get? q.candidate.val.candidateId =
      some m.record := by
    simp only [IdeaRepository.write, accepted.recordId_eq keyed, own, Dict.get?_set_self]
  have others : ∀ other, other ≠ tenantStorageKey scope.val.tenantId q.idempotencyKey →
      (s.write m).idempotencyRecords.get? other = s.idempotencyRecords.get? other := by
    intro other different
    simp only [IdeaRepository.write, IdeaRepository.bindIdempotency, storageKey]
    exact Dict.get?_set_of_ne _ different
  refine ⟨m.record, ?_⟩
  simp only [IdeaRepository.step, IdeaRepository.mutate, IdeaRepository.runPlan, isPlan,
    IdeaRepository.commit]
  split
  · exact ⟨written, candidate, others⟩
  · exact ⟨written, candidate, others⟩

end

/-! ## Causal inputs in another order -/

def samplePositions : CausalInputRevision where
  val := { productId := "positions", sourceRevision := "revision-1" }
  valid := by decide

def samplePrices : CausalInputRevision where
  val := { productId := "prices", sourceRevision := "revision-1" }
  valid := by decide

/-- The owner claims two causal inputs, in one order or the other. -/
def sampleClaims (turned : Bool) : SourceRevisionClaims where
  val :=
    { snapshotId := some "snapshot-1"
      causalInputRevisions :=
        if turned then [samplePrices, samplePositions] else [samplePositions, samplePrices]
      reconciliationPosture := .complete }
  valid := by cases turned <;> decide +kernel

def sampleCausalRef (turned : Bool) : SourceRef where
  val := { sampleSourceRef.val with revisionClaims := some (sampleClaims turned) }
  valid := by cases turned <;> decide +kernel

def sampleCausalPacket (turned : Bool) : IdeaEvidencePacket where
  val := { sampleEvidencePacket.val with sourceRefs := [sampleCausalRef turned] }
  valid := by cases turned <;> decide +kernel

theorem previousIdentity_valid : firstFailure (CandidateIdentityFields.checks
    { (sampleIdentity false).val with
      policyVersion := previousOpportunityIdentityPolicyVersion }) = none := by
  decide +kernel

/-- The sample condition under the identity policy before the present one. -/
def samplePreviousIdentity : CandidateIdentity where
  val :=
    { (sampleIdentity false).val with policyVersion := previousOpportunityIdentityPolicyVersion }
  valid := previousIdentity_valid

def sampleCausalCandidate (turned : Bool) (identity : CandidateIdentity) : IdeaCandidate where
  val :=
    { (sampleCandidate false).val with
      identity := identity, evidencePacket := sampleCausalPacket turned }
  valid := by
    have passed := (sampleCandidate false).valid
    exact passed

section
variable [Sha256]

def sampleCausalRequest (key : String) (turned : Bool) (identity : CandidateIdentity) :
    PersistRequest :=
  { samplePersistRequest key false 10 with candidate := sampleCausalCandidate turned identity }

def sampleCausalPersist : RepositoryCall :=
  .mutate (.persistCandidate (sampleCausalRequest "persist-1" false (sampleIdentity false)))

theorem sampleCausal_admitted {s : IdeaRepository} {key : String} {turned : Bool}
    {identity : CandidateIdentity} (filled : PyText.isBlank key = false)
    (unseen : s.idempotencyRecords.get? (tenantStorageKey "tenant-a" key) = none) :
    PersistAdmitted s (sampleCausalRequest key turned identity) sampleScope where
  filled := filled
  actor := by
    have named : PyText.isBlank "signal-engine" = false := by decide
    exact named
  authoritative := by
    have tenant : sampleScope.isAuthoritative = true := by decide +kernel
    simp [IdeaRepository.requireAuthoritativeScope, sampleCausalRequest, sampleCausalCandidate,
      sampleCandidate, tenant]
  utc := rfl
  unseen := unseen

def sampleCausalState : IdeaRepository := IdeaRepository.empty.run [sampleCausalPersist]

/-- The condition detected again under the identity policy before the present one. -/
def sampleRedetected : PersistRequest :=
  sampleCausalRequest "persist-2" true samplePreviousIdentity

theorem sampleCausal_stored : ∃ record,
    sampleCausalState.candidateRecords.get? "idea-1" = some record ∧
    record.val.candidate = sampleCausalCandidate false (sampleIdentity false) ∧
    sampleCausalState.idempotencyRecords.get? (tenantStorageKey "tenant-a" "persist-2") =
      none := by
  have filled : PyText.isBlank "persist-1" = false := by decide
  have admitted : PersistAdmitted IdeaRepository.empty
      (sampleCausalRequest "persist-1" false (sampleIdentity false)) sampleScope :=
    sampleCausal_admitted filled rfl
  obtain ⟨record, stored, candidate, others⟩ := persist_stores keyed_empty admitted rfl
  exact ⟨record, stored, candidate, others (tenantStorageKey "tenant-a" "persist-2") (by decide)⟩

end

theorem sampleCausal_sources : CurrentSources [sampleCausalRef true] where
  nonempty := by simp
  current := by decide
  unique := by simp
  dated := by
    intro r listed
    rw [List.mem_singleton.mp listed]
    decide

section Sample

local instance replaySha256 : Sha256 := Sha256.extended []

/-- The owner's claims are read with their causal inputs in another order: the replay
matches, although the claims differ.  And a candidate that stands on these sources, of
the same material condition and applicability, is no duplicate under another identity
policy. -/
theorem replay_forgets_causal_order :
    Sha256.CollisionFree 64 ∧
    ∃ record, sampleCausalState.candidateRecords.get? "idea-1" = some record ∧
      ¬ record.ExpiredAt (.utc 20) ∧
      CurrentSources [sampleCausalRef true] ∧
      ¬ SourcesAgree [sampleCausalRef true] record.sourceRefs ∧
      (∃ result, sampleCausalState.replayEvidence "idea-1" [sampleCausalRef true] (.utc 20) =
          .ok result ∧ result.status = .matched) ∧
      PersistAdmitted sampleCausalState sampleRedetected sampleScope ∧
      sampleRedetected.candidate.val.evidencePacket.val.sourceRefs = [sampleCausalRef true] ∧
      sampleRedetected.candidate.val.identity.val.materialFingerprint =
        record.val.candidate.val.identity.val.materialFingerprint ∧
      expiryChanged record.val.candidate sampleRedetected.candidate = false ∧
      ¬ AnswersDuplicate sampleCausalState sampleRedetected := by
  have short : 64 ≤ 64 := le_refl 64
  obtain ⟨record, stored, candidate, unseen⟩ := sampleCausal_stored
  have filled : PyText.isBlank "idea-1" = false := by decide
  have sources : record.sourceRefs = [sampleCausalRef false] := by
    rw [CandidatePersistenceRecord.sourceRefs, candidate]
    rfl
  have applies : ¬ record.ExpiredAt (.utc 20) := by
    rw [CandidatePersistenceRecord.ExpiredAt, candidate]
    decide
  have differ : ¬ SourcesAgree [sampleCausalRef true] [sampleCausalRef false] := by
    decide +kernel
  have alike : SourcesAgreeUnordered [sampleCausalRef true] [sampleCausalRef false] := by
    decide +kernel
  have sameHash := evidenceHash_of_agree sampleCausal_sources.unique alike
  have compares := replayEvidence_compares filled stored rfl applies sampleCausal_sources
  rw [sources, if_pos sameHash] at compares
  have newKey : PyText.isBlank "persist-2" = false := by decide
  have admitted : PersistAdmitted sampleCausalState sampleRedetected sampleScope :=
    sampleCausal_admitted newKey unseen
  refine ⟨@Sha256.extended_collisionFree [] 64 short List.nodup_nil, record, stored, applies,
    sampleCausal_sources, by rw [sources]; exact differ, ⟨_, compares, rfl⟩, admitted, rfl, ?_, ?_,
    ?_⟩
  · rw [candidate]
    rfl
  · rw [candidate]
    rfl
  · have policy : record.val.candidate.val.identity.val.policyVersion ≠
        sampleRedetected.candidate.val.identity.val.policyVersion := by
      rw [candidate]
      decide +kernel
    have upgrade : isSupportedPolicyUpgrade record.val.candidate sampleRedetected.candidate =
        false := by
      rw [candidate]
      decide +kernel
    exact not_duplicate_of_policy admitted stored policy upgrade

/-- The condition is persisted once. -/
theorem evidence_replay_exact_sample : ∃ record,
    sampleCausalState.candidateRecords.get? "idea-1" = some record ∧
    EvidenceExact sampleCausalState "idea-1" record := by
  have short : 64 ≤ 64 := le_refl 64
  obtain ⟨record, stored, candidate, _⟩ := sampleCausal_stored
  have dated : Dated record.sourceRefs := by
    intro r listed
    rw [CandidatePersistenceRecord.sourceRefs, candidate] at listed
    rw [List.mem_singleton.mp listed]
    decide
  exact ⟨record, stored, evidence_replay_exact
    (@Sha256.extended_collisionFree [] 64 short List.nodup_nil) [sampleCausalPersist]
    (List.forall_mem_singleton.mpr trivial) "idea-1" record stored dated⟩

end Sample

end LotusIdea

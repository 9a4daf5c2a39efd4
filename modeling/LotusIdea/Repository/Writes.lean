import LotusIdea.Repository.Runs

/-!
# What a mutation writes

`Runs` says what an accepted mutation owes to the state it was planned on.  Here
the record it leaves is told field by field, for each kind of mutation, together
with the key that it binds and with what was checked before it.
-/

set_option autoImplicit false

namespace LotusIdea

open IdeaRepository (PersistRequest LifecycleRequest TransitionRequest ResultRequest
  PrecheckRequest LineageRequest)

section
variable [Sha256]

/-! ## Admission -/

/-- The record that a key leaves for a payload. -/
def keyRecord (idempotencyKey : String) (payload : Json) : IdempotencyRecord :=
  ⟨idempotencyKey, idempotencyPayloadHash payload⟩

/-- How a stored key answers a payload. -/
def storedAnswer (existing : IdempotencyRecord) (idempotencyKey : String) (payload : Json) :
    PersistenceDecision :=
  if existing = keyRecord idempotencyKey payload then .replayed else .conflict

theorem admit_eq (s : IdeaRepository) {tenantId idempotencyKey : String} (payload : Json)
    (tenant : PyText.isBlank tenantId = false) (filled : PyText.isBlank idempotencyKey = false) :
    s.admission tenantId idempotencyKey payload =
      .ok (match s.idempotencyRecords.get? (tenantStorageKey tenantId idempotencyKey) with
        | none => .fresh (tenantStorageKey tenantId idempotencyKey)
            (keyRecord idempotencyKey payload)
        | some existing => .answered
            ⟨storedAnswer existing idempotencyKey payload,
              s.recordForStorageKey (tenantStorageKey tenantId idempotencyKey), none⟩) := by
  have named : tenantScopedIdempotencyIdentity tenantId idempotencyKey =
      .ok (tenantStorageKey tenantId idempotencyKey) := by
    simp only [tenantScopedIdempotencyIdentity]
    exact Except.seq_returns.mpr ⟨(), by simp [validate_eq_ok, tenant, filled], rfl⟩
  simp only [IdeaRepository.admission]
  refine Except.seq_returns.mpr ⟨_, named, ?_⟩
  cases found : s.idempotencyRecords.get? (tenantStorageKey tenantId idempotencyKey) with
  | none => rfl
  | some existing =>
      obtain ⟨key, payloadHash⟩ := existing
      by_cases same : key = idempotencyKey ∧ payloadHash = idempotencyPayloadHash payload
      · simp only [evaluateIdempotency, same, and_self, if_true, storedAnswer, keyRecord]
        rfl
      · simp only [evaluateIdempotency, same, if_false, storedAnswer, keyRecord,
          IdempotencyRecord.mk.injEq]
        rfl

omit [Sha256] in
theorem scope_tenant_not_blank (scope : ReviewAccessScope) :
    PyText.isBlank scope.val.tenantId = false := by
  have valid := scope.valid
  simp only [ReviewAccessScopeFields.checks, firstFailure_cons, requireText_passes] at valid
  exact valid.1

/-- A fresh admission binds the key to the payload. -/
theorem admit_fresh_record {s : IdeaRepository} {scope : ReviewAccessScope}
    {idempotencyKey storageKey : String} {payload : Json} {idempotencyRecord : IdempotencyRecord}
    (run : s.admission scope.val.tenantId idempotencyKey payload =
      .ok (.fresh storageKey idempotencyRecord)) :
    FreshKey s scope.val.tenantId idempotencyKey storageKey ∧
      idempotencyRecord = keyRecord idempotencyKey payload := by
  have fresh := admit_fresh run
  refine ⟨fresh, ?_⟩
  rw [admit_eq s payload (scope_tenant_not_blank scope) fresh.filled] at run
  split at run
  · cases run
    rfl
  · cases run

/-- A mutation of a stored candidate answers at once, or goes on with a key that is
new to the candidate's tenant. -/
inductive RecordPlan (s : IdeaRepository) (candidateId idempotencyKey : String) (payload : Json)
    (next : CandidatePersistenceRecord → String → IdempotencyRecord → Except PyError MutationPlan) :
    MutationPlan → Prop where
  | notFound (absent : s.candidateRecords.get? candidateId = none) :
      RecordPlan s candidateId idempotencyKey payload next (.answer ⟨.notFound, none, none⟩)
  | answered (record : CandidatePersistenceRecord) (scope : ReviewAccessScope)
      (existing : IdempotencyRecord)
      (stored : s.candidateRecords.get? candidateId = some record)
      (tenant : record.val.candidate.val.accessScope = some scope)
      (used : s.idempotencyRecords.get? (tenantStorageKey scope.val.tenantId idempotencyKey) =
        some existing) :
      RecordPlan s candidateId idempotencyKey payload next
        (.answer ⟨storedAnswer existing idempotencyKey payload,
          s.recordForStorageKey (tenantStorageKey scope.val.tenantId idempotencyKey), none⟩)
  | goesOn (record : CandidatePersistenceRecord) (scope : ReviewAccessScope) (plan : MutationPlan)
      (stored : s.candidateRecords.get? candidateId = some record)
      (tenant : record.val.candidate.val.accessScope = some scope)
      (fresh : FreshKey s scope.val.tenantId idempotencyKey
        (tenantStorageKey scope.val.tenantId idempotencyKey))
      (planned : next record (tenantStorageKey scope.val.tenantId idempotencyKey)
        (keyRecord idempotencyKey payload) = .ok plan) :
      RecordPlan s candidateId idempotencyKey payload next plan

theorem planForRecord_cases {s : IdeaRepository} {candidateId idempotencyKey : String}
    {payload : Json} {unscoped : PyError}
    {next : CandidatePersistenceRecord → String → IdempotencyRecord → Except PyError MutationPlan}
    {plan : MutationPlan} (filled : PyText.isBlank idempotencyKey = false)
    (run : s.planForRecord candidateId idempotencyKey payload unscoped next = .ok plan) :
    RecordPlan s candidateId idempotencyKey payload next plan := by
  unfold IdeaRepository.planForRecord at run
  split at run
  · cases run
    exact .notFound ‹_›
  rename_i record stored
  split at run
  · cases run
  rename_i scope tenant
  rw [admit_eq s payload (scope_tenant_not_blank scope) filled] at run
  obtain ⟨admission, admitted, run⟩ := Except.seq_returns.mp run
  cases found : s.idempotencyRecords.get? (tenantStorageKey scope.val.tenantId idempotencyKey) with
  | none =>
      rw [found] at admitted
      cases admitted
      exact .goesOn record scope plan stored tenant ⟨rfl, found, filled⟩ run
  | some existing =>
      rw [found] at admitted
      cases admitted
      cases run
      exact .answered record scope existing stored tenant found

/-! ## Prechecks -/

/-- The answers of a precheck under a key that is not blank: the stored key's, or
the stored identity's, which takes the key along when it agrees. -/
inductive Prechecked (s : IdeaRepository) {α : Type} (q : PrecheckRequest α)
    (seen : Option (Bool × CandidatePersistenceRecord)) (mismatch : PersistenceDecision) :
    Except PyError (Option PersistenceResult) × IdeaRepository → Prop where
  | used (existing : IdempotencyRecord)
      (stored : s.idempotencyRecords.get? (tenantStorageKey q.tenantId q.idempotencyKey) =
        some existing) :
      Prechecked s q seen mismatch
        (.ok (some ⟨storedAnswer existing q.idempotencyKey q.payload,
          s.recordForStorageKey (tenantStorageKey q.tenantId q.idempotencyKey), none⟩), s)
  | replayed (record : CandidatePersistenceRecord)
      (unused : s.idempotencyRecords.get? (tenantStorageKey q.tenantId q.idempotencyKey) = none)
      (found : seen = some (true, record)) :
      Prechecked s q seen mismatch
        (.ok (some ⟨.replayed, some record, none⟩),
          s.bindIdempotency (tenantStorageKey q.tenantId q.idempotencyKey)
            (keyRecord q.idempotencyKey q.payload) record.val.candidate.val.candidateId)
  | conflicting (record : CandidatePersistenceRecord)
      (unused : s.idempotencyRecords.get? (tenantStorageKey q.tenantId q.idempotencyKey) = none)
      (found : seen = some (false, record)) :
      Prechecked s q seen mismatch (.ok (some ⟨mismatch, some record, none⟩), s)
  | unseen
      (unused : s.idempotencyRecords.get? (tenantStorageKey q.tenantId q.idempotencyKey) = none)
      (absent : seen = none) : Prechecked s q seen mismatch (.ok none, s)

theorem precheck_cases (s : IdeaRepository) {α : Type} (q : PrecheckRequest α)
    (seen : Option (Bool × CandidatePersistenceRecord)) (mismatch : PersistenceDecision)
    (tenant : PyText.isBlank q.tenantId = false) (filled : PyText.isBlank q.idempotencyKey = false) :
    Prechecked s q seen mismatch
      (s.precheck q (IdeaRepository.identityPlan seen mismatch)) := by
  have passed : validate [requireText q.idempotencyKey "idempotency_key"] = .ok () := by
    simp [validate_eq_ok, filled]
  simp only [IdeaRepository.precheck, passed, admit_eq s q.payload tenant filled]
  cases found : s.idempotencyRecords.get? (tenantStorageKey q.tenantId q.idempotencyKey) with
  | some existing => exact .used existing found
  | none =>
      cases seen with
      | none => exact .unseen found rfl
      | some entry =>
          obtain ⟨same, record⟩ := entry
          cases same with
          | true => exact .replayed record found rfl
          | false => exact .conflicting record found rfl

/-- The stored review or feedback of an identity's id, and whether it agrees. -/
def IdeaRepository.reviewSeen (s : IdeaRepository) (identity : ReviewMutationIdentity) :
    Option (Bool × CandidatePersistenceRecord) :=
  (s.reviewIdentityRecord identity).map fun (existing, record) =>
    (existing.equals identity, record)

/-- The stored outcome of an identity's id, and whether it agrees. -/
def IdeaRepository.outcomeSeen (s : IdeaRepository) (identity : ConversionOutcomeIdentity) :
    Option (Bool × CandidatePersistenceRecord) :=
  (s.conversionOutcomeIdentityRecord identity.conversionOutcomeId).map fun (existing, record) =>
    (existing.equals identity, record)

theorem precheckReview_cases (s : IdeaRepository) (q : PrecheckRequest ReviewMutationIdentity)
    (tenant : PyText.isBlank q.tenantId = false) (filled : PyText.isBlank q.idempotencyKey = false) :
    Prechecked s q (s.reviewSeen q.identity) .identityConflict (s.precheckReviewMutation q) :=
  precheck_cases s q (s.reviewSeen q.identity) .identityConflict tenant filled

theorem precheckOutcome_cases (s : IdeaRepository) (q : PrecheckRequest ConversionOutcomeIdentity)
    (tenant : PyText.isBlank q.tenantId = false) (filled : PyText.isBlank q.idempotencyKey = false) :
    Prechecked s q (s.outcomeSeen q.identity) .outcomeConflict
      (s.precheckConversionOutcomeMutation q) :=
  precheck_cases s q (s.outcomeSeen q.identity) .outcomeConflict tenant filled

/-! ## Transitions -/

/-- A transition moves the candidate and leaves one history entry and one audit
event behind. -/
structure Transitioned (old updated : CandidatePersistenceRecord)
    (targetStatus : IdeaLifecycleStatus) (actorSubject : String) (occurredAtUtc : DateTime)
    (attributes : List (String × String)) (auditEvent : AuditEvent) : Prop where
  record : ∃ candidate entry,
    transitionCandidate old.val.candidate targetStatus occurredAtUtc = .ok candidate ∧
    updated.val =
      { old.val with
        candidate := candidate
        lifecycleHistory := old.val.lifecycleHistory ++ [entry]
        auditEvents := old.val.auditEvents ++ [auditEvent] }
  event : auditEvent.val =
    { eventType := "idea.lifecycle.transitioned"
      actorSubject := actorSubject
      outcome := "accepted"
      occurredAtUtc := occurredAtUtc
      attributes :=
        [("source_status", old.val.candidate.val.lifecycleStatus.value),
         ("target_status", targetStatus.value)] ++ attributes }

omit [Sha256] in
theorem transitionRecord_moved {old updated : CandidatePersistenceRecord}
    {targetStatus : IdeaLifecycleStatus} {actorSubject : String} {occurredAtUtc : DateTime}
    {attributes : List (String × String)} {auditEvent : AuditEvent}
    (run : IdeaRepository.transitionRecord old targetStatus actorSubject occurredAtUtc attributes =
      .ok (updated, auditEvent)) :
    Transitioned old updated targetStatus actorSubject occurredAtUtc attributes auditEvent := by
  simp only [IdeaRepository.transitionRecord] at run
  obtain ⟨candidate, moved, run⟩ := Except.seq_returns.mp run
  obtain ⟨entry, _, run⟩ := Except.seq_returns.mp run
  obtain ⟨event, audited, run⟩ := Except.seq_returns.mp run
  obtain ⟨made, created, run⟩ := Except.seq_returns.mp run
  cases run
  exact ⟨⟨candidate, entry, moved, Checked.make_eq_ok.mp created⟩, Checked.make_eq_ok.mp audited⟩

/-! ## What an accepted mutation writes -/

/-- The record, the indexes and the checks behind an accepted mutation of each kind. -/
inductive Writes (s : IdeaRepository) (m : AcceptedMutation) : MutationCall → Prop where
  | created (q : PersistRequest) (entry : CandidateVersionHistoryEntry) (auditEvent : AuditEvent)
      (named : m.candidateId = q.candidate.val.candidateId)
      (absent : s.candidateRecords.get? m.candidateId = none)
      (told : CandidateVersionHistoryEntry.ofCandidate q.candidate
        (evidenceHashForSourceRefs q.candidate.val.evidencePacket.val.sourceRefs) none
        q.occurredAtUtc = .ok entry)
      (record : m.record.val =
        { candidate := q.candidate
          evidenceHash := evidenceHashForSourceRefs q.candidate.val.evidencePacket.val.sourceRefs
          persistedAtUtc := q.occurredAtUtc
          versionHistory := [entry]
          auditEvents := [auditEvent] })
      (indexes : m.conversionIntentId = none ∧ m.reportEvidencePackId = none) :
      Writes s m (.persistCandidate q)
  | reconciled (q : PersistRequest) (old : CandidatePersistenceRecord) (candidate : IdeaCandidate)
      (entry : CandidateVersionHistoryEntry) (auditEvent : AuditEvent)
      (stored : s.candidateRecords.get? m.candidateId = some old)
      (later : NextVersion old.val.candidate candidate)
      (told : CandidateVersionHistoryEntry.ofCandidate candidate
        (evidenceHashForSourceRefs q.candidate.val.evidencePacket.val.sourceRefs)
        (some old.val.candidate.val.lifecycleStatus) q.occurredAtUtc = .ok entry)
      (record : m.record.val =
        { old.val with
          candidate := candidate
          evidenceHash := evidenceHashForSourceRefs q.candidate.val.evidencePacket.val.sourceRefs
          versionHistory := old.val.versionHistory ++ [entry]
          auditEvents := old.val.auditEvents ++ [auditEvent] })
      (indexes : m.conversionIntentId = none ∧ m.reportEvidencePackId = none) :
      Writes s m (.persistCandidate q)
  | transitioned (q : IdeaRepository.LifecycleRequest) (old : CandidatePersistenceRecord)
      (attributes : List (String × String))
      (stored : s.candidateRecords.get? m.candidateId = some old)
      (shape : attributes =
        [("idempotency_decision", IdempotencyDecision.accepted.value),
         ("observed_at_utc", (q.observedAtUtc.getD q.occurredAtUtc).isoformat),
         ("reason_codes", String.intercalate "," q.reasonCodes)] ++
        q.transitionId.elim [] fun id => [("transition_id", id)])
      (moved : IdeaRepository.transitionRecord old q.targetStatus q.actorSubject q.occurredAtUtc
        attributes = .ok (m.record, m.auditEvent))
      (indexes : m.conversionIntentId = none ∧ m.reportEvidencePackId = none) :
      Writes s m (.recordLifecycleTransition q)
  | reviewed (q : ResultRequest ReviewActionResult) (old : CandidatePersistenceRecord)
      (history : List LifecycleHistoryEntry)
      (named : m.candidateId = q.result.decision.val.candidateId)
      (stored : s.candidateRecords.get? m.candidateId = some old)
      (unseen : s.reviewIdentityRecord (reviewMutationIdentityFromDecision q.result.decision) =
        none)
      (source : old.val.candidate.equals q.result.sourceCandidate = true)
      (record : m.record.val =
        { old.val with
          candidate := q.result.candidate
          lifecycleHistory := history
          auditEvents := old.val.auditEvents ++ [q.result.auditEvent]
          reviewDecisions := old.val.reviewDecisions ++ [q.result.decision] })
      (indexes : m.conversionIntentId = none ∧ m.reportEvidencePackId = none) :
      Writes s m (.recordReviewAction q)
  | feedback (q : ResultRequest FeedbackResult) (old : CandidatePersistenceRecord)
      (named : m.candidateId = q.result.feedbackEvent.val.candidateId)
      (stored : s.candidateRecords.get? m.candidateId = some old)
      (unseen : s.reviewIdentityRecord (feedbackMutationIdentityFromEvent q.result.feedbackEvent) =
        none)
      (record : m.record.val =
        { old.val with
          auditEvents := old.val.auditEvents ++ [q.result.auditEvent]
          feedbackEvents := old.val.feedbackEvents ++ [q.result.feedbackEvent] })
      (indexes : m.conversionIntentId = none ∧ m.reportEvidencePackId = none) :
      Writes s m (.recordFeedbackEvent q)
  | converted (q : ResultRequest ConversionIntentResult) (old : CandidatePersistenceRecord)
      (history : List LifecycleHistoryEntry) (grant : ReviewAuthorityGrant)
      (named : m.candidateId = q.result.conversionIntent.val.intent.val.candidateId)
      (stored : s.candidateRecords.get? m.candidateId = some old)
      (source : old.val.candidate.equals q.result.sourceCandidate = true)
      (carried : q.result.conversionIntent.val.reviewAuthorityGrant = some grant)
      (held : grantIsHeld grant old.val.reviewDecisions = .ok true)
      (record : m.record.val =
        { old.val with
          candidate := q.result.candidate
          lifecycleHistory := history
          auditEvents := old.val.auditEvents ++ [q.result.auditEvent]
          conversionIntents := old.val.conversionIntents ++ [q.result.conversionIntent] })
      (indexes :
        m.conversionIntentId =
          some q.result.conversionIntent.val.intent.val.conversionIntentId ∧
        m.reportEvidencePackId = none) :
      Writes s m (.recordConversionIntent q)
  | outcome (q : ResultRequest ConversionOutcomeResult) (old : CandidatePersistenceRecord)
      (named : s.conversionIntentCandidates.get?
        q.result.conversionOutcome.val.conversionIntentId = some m.candidateId)
      (stored : s.candidateRecords.get? m.candidateId = some old)
      (unseen : s.conversionOutcomeIdentityRecord
        (GovernedConversionOutcome.identity q.result.conversionOutcome).conversionOutcomeId = none)
      (progresses : IdeaRepository.progressionConflicts old q.result.conversionOutcome = false)
      (record : m.record.val =
        { old.val with
          auditEvents := old.val.auditEvents ++ [q.result.auditEvent]
          conversionOutcomes := old.val.conversionOutcomes ++ [q.result.conversionOutcome] })
      (indexes : m.conversionIntentId = none ∧ m.reportEvidencePackId = none) :
      Writes s m (.recordConversionOutcome q)
  | packed (q : ResultRequest ReportEvidencePackResult) (old : CandidatePersistenceRecord)
      (named : m.candidateId = q.result.evidencePack.val.candidateId)
      (stored : s.candidateRecords.get? m.candidateId = some old)
      (record : m.record.val =
        { old.val with
          auditEvents := old.val.auditEvents ++ [q.result.auditEvent]
          reportEvidencePacks := old.val.reportEvidencePacks ++ [q.result.evidencePack] })
      (indexes : m.conversionIntentId = none ∧
        m.reportEvidencePackId = some q.result.evidencePack.val.reportEvidencePackId) :
      Writes s m (.recordReportEvidencePack q)

/-- The key that an accepted mutation binds for the tenant of its candidate. -/
structure BindsKey (s : IdeaRepository) (m : AcceptedMutation) (c : MutationCall)
    (scope : ReviewAccessScope) : Prop where
  fresh : FreshKey s scope.val.tenantId c.request.idempotencyKey m.storageKey
  record : m.idempotencyRecord = keyRecord c.request.idempotencyKey c.request.payload
  tenant : (scopedCandidate (s.candidateRecords.get? m.candidateId)
    m.record).val.accessScope = some scope

section Plans
variable {s : IdeaRepository} {m : AcceptedMutation}

theorem forRecord_accepts {candidateId idempotencyKey : String} {payload : Json}
    {unscoped : PyError}
    {next : CandidatePersistenceRecord → String → IdempotencyRecord → Except PyError MutationPlan}
    (filled : PyText.isBlank idempotencyKey = false)
    (run : s.planForRecord candidateId idempotencyKey payload unscoped next = .ok (.accept m)) :
    ∃ record scope, s.candidateRecords.get? candidateId = some record ∧
      record.val.candidate.val.accessScope = some scope ∧
      FreshKey s scope.val.tenantId idempotencyKey
        (tenantStorageKey scope.val.tenantId idempotencyKey) ∧
      next record (tenantStorageKey scope.val.tenantId idempotencyKey)
        (keyRecord idempotencyKey payload) = .ok (.accept m) := by
  cases planForRecord_cases filled run with
  | goesOn record scope _ stored tenant fresh planned =>
      exact ⟨record, scope, stored, tenant, fresh, planned⟩

/-- A key bound for a candidate that is stored. -/
theorem BindsKey.onRecord {c : MutationCall} {record : CandidatePersistenceRecord}
    {scope : ReviewAccessScope} (stored : s.candidateRecords.get? m.candidateId = some record)
    (tenant : record.val.candidate.val.accessScope = some scope)
    (fresh : FreshKey s scope.val.tenantId c.request.idempotencyKey m.storageKey)
    (keyed : m.idempotencyRecord = keyRecord c.request.idempotencyKey c.request.payload) :
    BindsKey s m c scope where
  fresh := fresh
  record := keyed
  tenant := by
    simp only [scopedCandidate, stored, Option.getD_some]
    exact tenant

omit [Sha256] in
theorem identityPlan_not_accept {existing : Option (Bool × CandidatePersistenceRecord)}
    {mismatch : PersistenceDecision} {storageKey : String} {idempotencyRecord : IdempotencyRecord}
    (seen : IdeaRepository.identityPlan existing mismatch storageKey idempotencyRecord =
      some (.accept m)) : False := by
  unfold IdeaRepository.identityPlan at seen
  obtain ⟨⟨same, record⟩, _, made⟩ := Option.map_eq_some_iff.mp seen
  cases same <;> cases made

omit [Sha256] in
theorem identityPlan_none {existing : Option (Bool × CandidatePersistenceRecord)}
    {mismatch : PersistenceDecision} {storageKey : String} {idempotencyRecord : IdempotencyRecord}
    (unseen : IdeaRepository.identityPlan existing mismatch storageKey idempotencyRecord = none) :
    existing = none := by
  simpa [IdeaRepository.identityPlan] using unseen

theorem persist_writes {q : PersistRequest} (run : s.persistPlan q = .ok (.accept m)) :
    Writes s m (.persistCandidate q) ∧ ∃ scope, BindsKey s m (.persistCandidate q) scope := by
  have accepted : Accepted s (.persistCandidate q) m := plan_sound (c := .persistCandidate q) run
  simp only [IdeaRepository.persistPlan] at run
  obtain ⟨_, passed, run⟩ := Except.seq_returns.mp run
  obtain ⟨scope, authoritative, run⟩ := Except.seq_returns.mp run
  obtain ⟨_, _, run⟩ := Except.seq_returns.mp run
  obtain ⟨admission, admitted, run⟩ := Except.seq_returns.mp run
  cases admission with
  | answered result => cases run
  | fresh storageKey idempotencyRecord =>
      obtain ⟨fresh, keyed⟩ := admit_fresh_record admitted
      subst keyed
      cases stored : s.candidateRecords.get? q.candidate.val.candidateId with
      | none =>
          simp only [stored, IdeaRepository.createPlan] at run
          obtain ⟨auditEvent, _, run⟩ := Except.seq_returns.mp run
          obtain ⟨entry, told, run⟩ := Except.seq_returns.mp run
          obtain ⟨record, made, run⟩ := Except.seq_returns.mp run
          cases run
          obtain ⟨own, tenant, shape⟩ := accepted.admitted
          refine ⟨.created q entry auditEvent rfl stored told (Checked.make_eq_ok.mp made)
            ⟨rfl, rfl⟩, own, ⟨⟨shape, fresh.unseen, fresh.filled⟩, rfl, tenant⟩⟩
      | some existing =>
          simp only [stored, IdeaRepository.reconcilePlan] at run
          obtain ⟨reconciliation, reconciled, run⟩ := Except.seq_returns.mp run
          rcases reconcileCandidate_cases reconciled with
            rfl | rfl | ⟨next, held, same, later, accepting⟩
          · cases run
          · cases run
          · obtain ⟨own, tenant, shape⟩ := accepted.admitted
            rcases accepting with decided | decided | decided
            all_goals
              simp only [decided, held, reduceCtorEq, if_false, IdeaRepository.reconciledPlan]
                at run
              obtain ⟨eventType, _, run⟩ := Except.seq_returns.mp run
              obtain ⟨auditEvent, _, run⟩ := Except.seq_returns.mp run
              obtain ⟨entry, told, run⟩ := Except.seq_returns.mp run
              obtain ⟨record, made, run⟩ := Except.seq_returns.mp run
              cases run
              exact ⟨.reconciled q existing next entry auditEvent stored later told
                (Checked.make_eq_ok.mp made) ⟨rfl, rfl⟩, own,
                ⟨⟨shape, fresh.unseen, fresh.filled⟩, rfl, tenant⟩⟩

theorem lifecycle_writes {q : IdeaRepository.LifecycleRequest}
    (run : s.lifecyclePlan q = .ok (.accept m)) :
    Writes s m (.recordLifecycleTransition q) ∧
      ∃ scope, BindsKey s m (.recordLifecycleTransition q) scope := by
  simp only [IdeaRepository.lifecyclePlan] at run
  obtain ⟨_, passed, run⟩ := Except.seq_returns.mp run
  have checks := validate_eq_ok.mp passed
  simp only [firstFailure_append, firstFailure_cons, requireText_passes] at checks
  obtain ⟨record, scope, stored, tenant, fresh, run⟩ := forRecord_accepts checks.1.1.2.1 run
  obtain ⟨⟨updated, auditEvent⟩, moved, run⟩ := Except.seq_returns.mp run
  cases run
  exact ⟨.transitioned q record _ stored rfl moved ⟨rfl, rfl⟩, scope,
    .onRecord stored tenant fresh rfl⟩

theorem review_writes {q : ResultRequest ReviewActionResult}
    (run : s.reviewPlan q = .ok (.accept m)) :
    Writes s m (.recordReviewAction q) ∧ ∃ scope, BindsKey s m (.recordReviewAction q) scope := by
  simp only [IdeaRepository.reviewPlan] at run
  obtain ⟨_, passed, run⟩ := Except.seq_returns.mp run
  have checks := validate_eq_ok.mp passed
  simp only [firstFailure_cons, requireText_passes] at checks
  obtain ⟨record, scope, stored, tenant, fresh, run⟩ := forRecord_accepts checks.1 run
  split at run
  · rename_i seen
    cases run
    exact (identityPlan_not_accept seen).elim
  rename_i unseen
  simp only [IdeaRepository.reviewedPlan] at run
  obtain ⟨_, source, run⟩ := Except.seq_returns.mp run
  obtain ⟨history, _, run⟩ := Except.seq_returns.mp run
  obtain ⟨updated, made, run⟩ := Except.seq_returns.mp run
  cases run
  have same := validate_eq_ok.mp source
  simp only [firstFailure_cons, Bool.not_eq_false'] at same
  exact ⟨.reviewed q record history rfl stored
    (Option.map_eq_none_iff.mp (identityPlan_none unseen)) same.1 (Checked.make_eq_ok.mp made)
    ⟨rfl, rfl⟩, scope, .onRecord stored tenant fresh rfl⟩

theorem feedback_writes {q : ResultRequest FeedbackResult}
    (run : s.feedbackPlan q = .ok (.accept m)) :
    Writes s m (.recordFeedbackEvent q) ∧ ∃ scope, BindsKey s m (.recordFeedbackEvent q) scope := by
  simp only [IdeaRepository.feedbackPlan] at run
  obtain ⟨_, passed, run⟩ := Except.seq_returns.mp run
  have checks := validate_eq_ok.mp passed
  simp only [firstFailure_cons, requireText_passes] at checks
  obtain ⟨record, scope, stored, tenant, fresh, run⟩ := forRecord_accepts checks.1 run
  split at run
  · rename_i seen
    cases run
    exact (identityPlan_not_accept seen).elim
  rename_i unseen
  simp only [IdeaRepository.feedbackRecordedPlan] at run
  obtain ⟨updated, made, run⟩ := Except.seq_returns.mp run
  cases run
  exact ⟨.feedback q record rfl stored (Option.map_eq_none_iff.mp (identityPlan_none unseen))
    (Checked.make_eq_ok.mp made) ⟨rfl, rfl⟩, scope, .onRecord stored tenant fresh rfl⟩

theorem conversion_writes {q : ResultRequest ConversionIntentResult}
    (run : s.conversionPlan q = .ok (.accept m)) :
    Writes s m (.recordConversionIntent q) ∧
      ∃ scope, BindsKey s m (.recordConversionIntent q) scope := by
  simp only [IdeaRepository.conversionPlan] at run
  obtain ⟨_, passed, run⟩ := Except.seq_returns.mp run
  have checks := validate_eq_ok.mp passed
  simp only [firstFailure_cons, requireText_passes] at checks
  obtain ⟨record, scope, stored, tenant, fresh, run⟩ := forRecord_accepts checks.1 run
  simp only [IdeaRepository.convertedPlan] at run
  obtain ⟨_, source, run⟩ := Except.seq_returns.mp run
  have same := validate_eq_ok.mp source
  simp only [firstFailure_cons, Bool.not_eq_false'] at same
  split at run
  · cases run
  rename_i grant carried
  obtain ⟨held, checked, run⟩ := Except.seq_returns.mp run
  obtain ⟨_, isHeld, run⟩ := Except.seq_returns.mp run
  obtain ⟨history, _, run⟩ := Except.seq_returns.mp run
  obtain ⟨updated, made, run⟩ := Except.seq_returns.mp run
  cases run
  have holds := validate_eq_ok.mp isHeld
  simp only [firstFailure_cons, Bool.not_eq_false'] at holds
  rw [holds.1] at checked
  exact ⟨.converted q record history grant rfl stored same.1 carried checked
    (Checked.make_eq_ok.mp made) ⟨rfl, rfl⟩, scope, .onRecord stored tenant fresh rfl⟩

theorem outcome_writes {q : ResultRequest ConversionOutcomeResult}
    (run : s.outcomePlan q = .ok (.accept m)) :
    Writes s m (.recordConversionOutcome q) ∧
      ∃ scope, BindsKey s m (.recordConversionOutcome q) scope := by
  simp only [IdeaRepository.outcomePlan] at run
  obtain ⟨_, passed, run⟩ := Except.seq_returns.mp run
  have checks := validate_eq_ok.mp passed
  simp only [firstFailure_cons, requireText_passes] at checks
  split at run
  · cases run
  rename_i candidateId named
  obtain ⟨record, scope, stored, tenant, fresh, run⟩ := forRecord_accepts checks.1 run
  unfold IdeaRepository.outcomeNextPlan at run
  split at run
  · rename_i seen
    cases run
    exact (identityPlan_not_accept seen).elim
  rename_i unseen
  split at run
  · cases run
  rename_i progresses
  simp only [IdeaRepository.outcomeAcceptedPlan] at run
  obtain ⟨updated, made, run⟩ := Except.seq_returns.mp run
  cases run
  exact ⟨.outcome q record named stored (Option.map_eq_none_iff.mp (identityPlan_none unseen))
    (by simpa using progresses) (Checked.make_eq_ok.mp made) ⟨rfl, rfl⟩, scope,
    .onRecord stored tenant fresh rfl⟩

theorem pack_writes {q : ResultRequest ReportEvidencePackResult}
    (run : s.packPlan q = .ok (.accept m)) :
    Writes s m (.recordReportEvidencePack q) ∧
      ∃ scope, BindsKey s m (.recordReportEvidencePack q) scope := by
  simp only [IdeaRepository.packPlan] at run
  obtain ⟨_, passed, run⟩ := Except.seq_returns.mp run
  have checks := validate_eq_ok.mp passed
  simp only [firstFailure_cons, requireText_passes] at checks
  obtain ⟨record, scope, stored, tenant, fresh, run⟩ := forRecord_accepts checks.1 run
  simp only [IdeaRepository.packedPlan] at run
  obtain ⟨updated, made, run⟩ := Except.seq_returns.mp run
  cases run
  exact ⟨.packed q record rfl stored (Checked.make_eq_ok.mp made) ⟨rfl, rfl⟩, scope,
    .onRecord stored tenant fresh rfl⟩

/-- Whatever mutation is accepted writes as its kind says, under a key of its
candidate's tenant that was new. -/
theorem mutation_writes {c : MutationCall} (run : c.plan s = .ok (.accept m)) :
    Writes s m c ∧ ∃ scope, BindsKey s m c scope := by
  cases c with
  | persistCandidate q => exact persist_writes run
  | recordLifecycleTransition q => exact lifecycle_writes run
  | recordReviewAction q => exact review_writes run
  | recordFeedbackEvent q => exact feedback_writes run
  | recordConversionIntent q => exact conversion_writes run
  | recordConversionOutcome q => exact outcome_writes run
  | recordReportEvidencePack q => exact pack_writes run

end Plans

/-! ## The records that a call leaves -/

/-- The records as they were, or with one of them replaced: by an accepted
mutation, by a transition, or by an explanation's lineage. -/
inductive RecordsAfter (s : IdeaRepository) (c : RepositoryCall) : CandidateRecords → Prop where
  | same : RecordsAfter s c s.candidateRecords
  | written (call : MutationCall) (isCall : c = .mutate call) (m : AcceptedMutation)
      (planned : call.plan s = .ok (.accept m)) :
      RecordsAfter s c (s.candidateRecords.set m.candidateId m.record)
  | moved (q : TransitionRequest) (isCall : c = .transition q)
      (record updated : CandidatePersistenceRecord) (auditEvent : AuditEvent)
      (stored : s.candidateRecords.get? q.candidateId = some record)
      (moved : IdeaRepository.transitionRecord record q.targetStatus q.actorSubject
        q.occurredAtUtc [] = .ok (updated, auditEvent)) :
      RecordsAfter s c (s.candidateRecords.set q.candidateId updated)
  | explained (q : LineageRequest)
      (isCall : c = .recordLineage q ∨ ∃ key payload, c = .recordLineageRequest q key payload)
      (lineage : AIExplanationLineageRecord) (record updated : CandidatePersistenceRecord)
      (accepted : LineageAccepted s q lineage record updated) :
      RecordsAfter s c (s.candidateRecords.set lineage.val.candidateId updated)

theorem mutate_records_after {s : IdeaRepository} (keyed : s.Keyed) (c : MutationCall) :
    RecordsAfter s (.mutate c) (s.mutate c).2.candidateRecords := by
  have written : ∀ m, c.plan s = .ok (.accept m) →
      RecordsAfter s (.mutate c) (s.write m).candidateRecords := by
    intro m planned
    have accepted : Accepted s c m := plan_sound planned
    simp only [IdeaRepository.write, accepted.recordId_eq keyed]
    exact .written c rfl m planned
  cases run : s.mutate c with
  | mk answer next =>
      have effect := mutate_effect s c
      rw [run] at effect
      cases effect with
      | refused error _ => exact .same
      | answered result _ => exact .same
      | bound result _ _ _ _ => exact .same
      | cut m planned _ error _ => exact written m planned
      | written m planned _ event _ => exact written m planned

theorem transition_records_after {s : IdeaRepository} (keyed : s.Keyed) (q : TransitionRequest) :
    RecordsAfter s (.transition q) (s.transitionCandidate q).2.candidateRecords := by
  unfold IdeaRepository.transitionCandidate
  split
  · exact .same
  split
  · exact .same
  rename_i record stored
  split
  · exact .same
  rename_i updated auditEvent moved
  rw [keyed _ _ stored]
  exact .moved q rfl record updated auditEvent stored moved

theorem LineageWrites.records_after {s next : IdeaRepository} {q : LineageRequest}
    (writes : LineageWrites s q next) {c : RepositoryCall}
    (isCall : c = .recordLineage q ∨ ∃ key payload, c = .recordLineageRequest q key payload) :
    RecordsAfter s c next.candidateRecords := by
  cases writes with
  | same => exact .same
  | written lineage record updated accepted =>
      exact .explained q isCall lineage record updated accepted
  | keyed lineage record updated accepted _ _ _ =>
      exact .explained q isCall lineage record updated accepted

theorem records_after_step {s : IdeaRepository} (keyed : s.Keyed) (c : RepositoryCall) :
    RecordsAfter s c (s.step c).candidateRecords := by
  have same : ∀ {records : CandidateRecords}, records = s.candidateRecords →
      RecordsAfter s c records := by
    rintro _ rfl
    exact .same
  cases c with
  | mutate c => exact mutate_records_after keyed c
  | transition q => exact transition_records_after keyed q
  | precheckReview q =>
      have bound : KeyBound s (s.precheckReviewMutation q).2 := precheck_keyBound s q
      exact same bound.candidateRecords
  | precheckOutcome q =>
      have bound : KeyBound s (s.precheckConversionOutcomeMutation q).2 := precheck_keyBound s q
      exact same bound.candidateRecords
  | requestDeliveryRun key payload => exact same (deliveryRun_records s key payload)
  | deliver c => exact .same
  | recordLineage q => exact (lineage_writes s q).records_after (Or.inl rfl)
  | recordLineageRequest q key payload =>
      exact (lineageRequest_writes s q key payload).records_after (Or.inr ⟨key, payload, rfl⟩)
  | recordPresentation receipt =>
      obtain ⟨receipts, moved⟩ := presentation_frame s receipt
      exact same (by rw [IdeaRepository.step, moved])

end

end LotusIdea

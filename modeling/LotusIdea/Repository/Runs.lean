import LotusIdea.Foundation.Runs
import LotusIdea.Outbox.DeliverySafety
import LotusIdea.Repository.Lineage

/-!
# Runs of the repository

The calls of the repository in any order.  `Accepted` says once what an
accepted mutation owes to the state it was planned on, and `RecordStep` what any
call does to one candidate record; the properties of whole runs are read off
these two.
-/

set_option autoImplicit false

namespace LotusIdea

open IdeaRepository (PersistRequest LifecycleRequest TransitionRequest ResultRequest
  PrecheckRequest LineageRequest)

/-- The dispositions that report a write. -/
def PersistenceDecision.isAccepting : PersistenceDecision → Bool
  | .accepted | .evidenceRefreshed | .materialVersionCreated | .recurrentConditionReopened => true
  | _ => false

section
variable [Sha256]

/-! ## Calls -/

/-- The mutations that end in an outbox event. -/
inductive MutationCall where
  | persistCandidate (q : PersistRequest)
  | recordLifecycleTransition (q : IdeaRepository.LifecycleRequest)
  | recordReviewAction (q : ResultRequest ReviewActionResult)
  | recordFeedbackEvent (q : ResultRequest FeedbackResult)
  | recordConversionIntent (q : ResultRequest ConversionIntentResult)
  | recordConversionOutcome (q : ResultRequest ConversionOutcomeResult)
  | recordReportEvidencePack (q : ResultRequest ReportEvidencePackResult)

namespace MutationCall

def plan (s : IdeaRepository) : MutationCall → Except PyError MutationPlan
  | .persistCandidate q => s.persistPlan q
  | .recordLifecycleTransition q => s.lifecyclePlan q
  | .recordReviewAction q => s.reviewPlan q
  | .recordFeedbackEvent q => s.feedbackPlan q
  | .recordConversionIntent q => s.conversionPlan q
  | .recordConversionOutcome q => s.outcomePlan q
  | .recordReportEvidencePack q => s.packPlan q

def request : MutationCall → IdeaRepository.MutationRequest
  | .persistCandidate q => q.toMutationRequest
  | .recordLifecycleTransition q => q.toMutationRequest
  | .recordReviewAction q => q.toMutationRequest
  | .recordFeedbackEvent q => q.toMutationRequest
  | .recordConversionIntent q => q.toMutationRequest
  | .recordConversionOutcome q => q.toMutationRequest
  | .recordReportEvidencePack q => q.toMutationRequest

/-- The time that the mutation gives its outbox event. -/
def eventTime : MutationCall → DateTime
  | .persistCandidate q => q.occurredAtUtc
  | .recordLifecycleTransition q => q.occurredAtUtc
  | .recordReviewAction q => q.result.decision.val.acceptedAtUtc
  | .recordFeedbackEvent q => q.result.feedbackEvent.val.acceptedAtUtc
  | .recordConversionIntent q => q.result.conversionIntent.val.acceptedAtUtc
  | .recordConversionOutcome q => q.result.conversionOutcome.val.acceptedAtUtc
  | .recordReportEvidencePack q => q.result.evidencePack.val.requestedAtUtc

/-- Review results and conversion intents are what the domain's own operations
returned, on some candidate. -/
def Governed : MutationCall → Prop
  | .recordReviewAction q => ∃ candidate command acceptedAtUtc receipt policy,
      applyReviewAction candidate command acceptedAtUtc receipt policy = .ok q.result
  | .recordConversionIntent q => ∃ candidate command acceptedAtUtc grant,
      requestConversionIntent candidate command acceptedAtUtc grant = .ok q.result
  | _ => True

end MutationCall

inductive RepositoryCall where
  | mutate (c : MutationCall)
  | transition (q : TransitionRequest)
  | precheckReview (q : PrecheckRequest ReviewMutationIdentity)
  | precheckOutcome (q : PrecheckRequest ConversionOutcomeIdentity)
  | requestDeliveryRun (idempotencyKey : String) (payload : Json)
  | deliver (c : OutboxCall)
  | recordLineage (q : LineageRequest)
  | recordLineageRequest (q : LineageRequest) (idempotencyKey : String) (payload : Json)
  | recordPresentation (receipt : CandidatePresentationReceipt)

def RepositoryCall.Governed : RepositoryCall → Prop
  | .mutate c => c.Governed
  | _ => True

namespace IdeaRepository

def mutate (s : IdeaRepository) (c : MutationCall) :
    Except PyError PersistenceResult × IdeaRepository :=
  s.runPlan (c.plan s)

def step (s : IdeaRepository) : RepositoryCall → IdeaRepository
  | .mutate c => (s.mutate c).2
  | .transition q => (s.transitionCandidate q).2
  | .precheckReview q => (s.precheckReviewMutation q).2
  | .precheckOutcome q => (s.precheckConversionOutcomeMutation q).2
  | .requestDeliveryRun key payload => (s.recordOutboxDeliveryRunRequest key payload).2
  | .deliver c => { s with outbox := s.outbox.step c }
  | .recordLineage q => (s.recordAIExplanationLineage q).2
  | .recordLineageRequest q key payload =>
      (s.recordAIExplanationLineageRequest q key payload).2
  | .recordPresentation receipt => (s.recordPresentationReceipt receipt).2

def run (s : IdeaRepository) (calls : List RepositoryCall) : IdeaRepository :=
  Runs.run IdeaRepository.step s calls

@[simp] theorem run_append (s : IdeaRepository) (first later : List RepositoryCall) :
    s.run (first ++ later) = (s.run first).run later :=
  Runs.run_append IdeaRepository.step s first later

/-- Records stand under the ids of their candidates. -/
def Keyed (s : IdeaRepository) : Prop :=
  ∀ id record, s.candidateRecords.get? id = some record →
    record.val.candidate.val.candidateId = id

end IdeaRepository

/-! ## What a call does to a record -/

/-- The record found under `id`, if any, and the one that `c` puts in its place. -/
inductive RecordStep (c : RepositoryCall) (id : String) :
    Option CandidatePersistenceRecord → CandidatePersistenceRecord → Prop where
  | created {new : CandidatePersistenceRecord} (q : PersistRequest)
      (isPersist : c = .mutate (.persistCandidate q)) (named : q.candidate.val.candidateId = id)
      (entry : CandidateVersionHistoryEntry) (candidate : new.val.candidate = q.candidate)
      (told : entry.Tells new.val.candidate.val.identity)
      (history : new.val.versionHistory = [entry]) (decisions : new.val.reviewDecisions = [])
      (intents : new.val.conversionIntents = []) : RecordStep c id none new
  | reconciled {old new : CandidatePersistenceRecord} (entry : CandidateVersionHistoryEntry)
      (next : NextVersion old.val.candidate new.val.candidate)
      (told : entry.Tells new.val.candidate.val.identity)
      (history : new.val.versionHistory = old.val.versionHistory ++ [entry])
      (decisions : new.val.reviewDecisions = old.val.reviewDecisions)
      (intents : new.val.conversionIntents = old.val.conversionIntents) :
      RecordStep c id (some old) new
  | transitioned {old new : CandidatePersistenceRecord} (targetStatus : IdeaLifecycleStatus)
      (occurredAtUtc : DateTime)
      (moved : transitionCandidate old.val.candidate targetStatus occurredAtUtc =
        .ok new.val.candidate)
      (history : new.val.versionHistory = old.val.versionHistory)
      (decisions : new.val.reviewDecisions = old.val.reviewDecisions)
      (intents : new.val.conversionIntents = old.val.conversionIntents) :
      RecordStep c id (some old) new
  | reviewed {old new : CandidatePersistenceRecord} (q : ResultRequest ReviewActionResult)
      (isReview : c = .mutate (.recordReviewAction q))
      (source : old.val.candidate.equals q.result.sourceCandidate = true)
      (candidate : new.val.candidate = q.result.candidate)
      (history : new.val.versionHistory = old.val.versionHistory)
      (decisions : new.val.reviewDecisions = old.val.reviewDecisions ++ [q.result.decision])
      (intents : new.val.conversionIntents = old.val.conversionIntents) :
      RecordStep c id (some old) new
  | converted {old new : CandidatePersistenceRecord} (q : ResultRequest ConversionIntentResult)
      (isConversion : c = .mutate (.recordConversionIntent q))
      (source : old.val.candidate.equals q.result.sourceCandidate = true)
      (candidate : new.val.candidate = q.result.candidate)
      (grant : ReviewAuthorityGrant)
      (carried : q.result.conversionIntent.val.reviewAuthorityGrant = some grant)
      (held : ∃ decision ∈ old.val.reviewDecisions, decision.authorityGrant = .ok (some grant))
      (history : new.val.versionHistory = old.val.versionHistory)
      (decisions : new.val.reviewDecisions = old.val.reviewDecisions)
      (intents : new.val.conversionIntents =
        old.val.conversionIntents ++ [q.result.conversionIntent]) : RecordStep c id (some old) new
  | annotated {old new : CandidatePersistenceRecord}
      (candidate : new.val.candidate = old.val.candidate)
      (history : new.val.versionHistory = old.val.versionHistory)
      (decisions : new.val.reviewDecisions = old.val.reviewDecisions)
      (intents : new.val.conversionIntents = old.val.conversionIntents) :
      RecordStep c id (some old) new

/-- The candidate whose tenant names the idempotency key. -/
def scopedCandidate (found : Option CandidatePersistenceRecord)
    (stored : CandidatePersistenceRecord) : IdeaCandidate :=
  (found.getD stored).val.candidate

/-- The outbox event of an accepted mutation. -/
structure EventOf (c : MutationCall) (m : AcceptedMutation) : Prop where
  eventType : m.event.eventType ∈ supportedOutboxEventTypes
  aggregateId : m.event.aggregateId = m.candidateId
  occurredAtUtc : m.event.occurredAtUtc = c.eventTime
  idempotencyKey : m.event.idempotencyKey = c.request.idempotencyKey
  eventLineage : m.event.eventLineage = c.request.eventLineage
  payload : ∀ key ∈ m.event.payload.map Prod.fst, key ∉ forbiddenOutboxPayloadKeys

/-- What an accepted mutation owes to the state it was planned on. -/
structure Accepted (s : IdeaRepository) (c : MutationCall) (m : AcceptedMutation) : Prop where
  accepting : m.decision.isAccepting = true
  unseen : s.idempotencyRecords.get? m.storageKey = none
  key : PyText.isBlank c.request.idempotencyKey = false
  changes : RecordStep (.mutate c) m.candidateId (s.candidateRecords.get? m.candidateId) m.record
  recordId : m.recordId = m.candidateId ∨ ∃ old,
    s.candidateRecords.get? m.candidateId = some old ∧
      m.recordId = old.val.candidate.val.candidateId
  candidateId : PyText.isBlank m.candidateId = false ∨
    (s.candidateRecords.get? m.candidateId).isSome
  admitted : ∃ scope, (scopedCandidate (s.candidateRecords.get? m.candidateId)
      m.record).val.accessScope = some scope ∧
    m.storageKey = tenantStorageKey scope.val.tenantId c.request.idempotencyKey
  event : EventOf c m

def PlanSound (s : IdeaRepository) (c : MutationCall) : MutationPlan → Prop
  | .answer result => result.decision.isAccepting = false
  | .rebind result _ _ _ => result.decision.isAccepting = false
  | .accept m => Accepted s c m

/-! ## Admission -/

/-- The storage key of a tenant's idempotency key that was not used before. -/
structure FreshKey (s : IdeaRepository) (tenantId idempotencyKey storageKey : String) : Prop where
  shape : storageKey = tenantStorageKey tenantId idempotencyKey
  unseen : s.idempotencyRecords.get? storageKey = none
  filled : PyText.isBlank idempotencyKey = false

omit [Sha256] in
theorem tenantScopedIdempotencyIdentity_returns {tenantId idempotencyKey storageKey : String}
    (run : tenantScopedIdempotencyIdentity tenantId idempotencyKey = .ok storageKey) :
    storageKey = tenantStorageKey tenantId idempotencyKey ∧
      PyText.isBlank idempotencyKey = false := by
  simp only [tenantScopedIdempotencyIdentity] at run
  obtain ⟨_, passed, run⟩ := Except.seq_returns.mp run
  cases run
  have checks := validate_eq_ok.mp passed
  simp only [firstFailure_cons] at checks
  exact ⟨rfl, checks.2.1⟩

theorem evaluateIdempotency_accepted {key : String} {payload : Json}
    {existing : Option IdempotencyRecord} {record : IdempotencyRecord}
    (run : evaluateIdempotency key payload existing = (.accepted, record)) : existing = none := by
  simp only [evaluateIdempotency] at run
  split at run
  · rfl
  · split at run <;> cases run

theorem admit_fresh {s : IdeaRepository} {tenantId idempotencyKey storageKey : String}
    {payload : Json} {idempotencyRecord : IdempotencyRecord}
    (run : s.admission tenantId idempotencyKey payload = .ok (.fresh storageKey idempotencyRecord)) :
    FreshKey s tenantId idempotencyKey storageKey := by
  simp only [IdeaRepository.admission] at run
  obtain ⟨key, named, run⟩ := Except.seq_returns.mp run
  obtain ⟨shape, filled⟩ := tenantScopedIdempotencyIdentity_returns named
  split at run
  · cases run
  · cases run
  · rename_i record evaluated
    cases run
    exact ⟨shape, evaluateIdempotency_accepted evaluated, filled⟩

theorem admit_answered {s : IdeaRepository} {tenantId idempotencyKey : String} {payload : Json}
    {result : PersistenceResult}
    (run : s.admission tenantId idempotencyKey payload = .ok (.answered result)) :
    result.decision.isAccepting = false := by
  simp only [IdeaRepository.admission] at run
  obtain ⟨key, named, run⟩ := Except.seq_returns.mp run
  split at run
  · cases run
    rfl
  · cases run
    rfl
  · cases run

/-- A mutation of a stored candidate answers at once, or goes on with the record,
the tenant's scope and a fresh key. -/
theorem planForRecord_returns {s : IdeaRepository} {candidateId idempotencyKey : String}
    {payload : Json} {unscoped : PyError}
    {next : CandidatePersistenceRecord → String → IdempotencyRecord → Except PyError MutationPlan}
    {plan : MutationPlan}
    (run : s.planForRecord candidateId idempotencyKey payload unscoped next = .ok plan) :
    (∃ result, plan = .answer result ∧ result.decision.isAccepting = false) ∨
    ∃ record scope storageKey idempotencyRecord,
      s.candidateRecords.get? candidateId = some record ∧
      record.val.candidate.val.accessScope = some scope ∧
      FreshKey s scope.val.tenantId idempotencyKey storageKey ∧
      next record storageKey idempotencyRecord = .ok plan := by
  unfold IdeaRepository.planForRecord at run
  split at run
  · cases run
    exact Or.inl ⟨_, rfl, rfl⟩
  · rename_i record stored
    split at run
    · cases run
    · rename_i scope tenant
      obtain ⟨admission, admitted, run⟩ := Except.seq_returns.mp run
      cases admission with
      | answered result =>
          cases run
          exact Or.inl ⟨_, rfl, admit_answered admitted⟩
      | fresh storageKey idempotencyRecord =>
          exact Or.inr
            ⟨record, scope, storageKey, idempotencyRecord, stored, tenant, admit_fresh admitted,
              run⟩

theorem identityPlan_sound {s : IdeaRepository} {c : MutationCall}
    {existing : Option (Bool × CandidatePersistenceRecord)} {mismatch : PersistenceDecision}
    {storageKey : String} {idempotencyRecord : IdempotencyRecord} {plan : MutationPlan}
    (refuses : mismatch.isAccepting = false)
    (seen : IdeaRepository.identityPlan existing mismatch storageKey idempotencyRecord =
      some plan) : PlanSound s c plan := by
  unfold IdeaRepository.identityPlan at seen
  obtain ⟨⟨same, record⟩, _, made⟩ := Option.map_eq_some_iff.mp seen
  cases same with
  | true =>
      cases made
      rfl
  | false =>
      cases made
      exact refuses

/-! ## Every plan is sound -/

section Plans
variable {s : IdeaRepository} {plan : MutationPlan} {scope : ReviewAccessScope}
  {storageKey : String} {idempotencyRecord : IdempotencyRecord}

/-- An accepted mutation of a record that is stored. -/
theorem Accepted.onRecord {c : MutationCall} {m : AcceptedMutation}
    {record : CandidatePersistenceRecord}
    (stored : s.candidateRecords.get? m.candidateId = some record)
    (tenant : record.val.candidate.val.accessScope = some scope)
    (fresh : FreshKey s scope.val.tenantId c.request.idempotencyKey m.storageKey)
    (accepting : m.decision.isAccepting = true)
    (recordId : m.recordId = m.candidateId ∨ m.recordId = record.val.candidate.val.candidateId)
    (changes : RecordStep (.mutate c) m.candidateId (some record) m.record)
    (event : EventOf c m) : Accepted s c m where
  accepting := accepting
  unseen := fresh.unseen
  key := fresh.filled
  changes := by
    rw [stored]
    exact changes
  recordId := recordId.imp id fun own => ⟨record, stored, own⟩
  candidateId := Or.inr (by simp [stored])
  admitted := by
    refine ⟨scope, ?_, fresh.shape⟩
    simp only [scopedCandidate, stored, Option.getD_some]
    exact tenant
  event := event

theorem createPlan_sound {q : PersistRequest}
    (absent : s.candidateRecords.get? q.candidate.val.candidateId = none)
    (tenant : q.candidate.val.accessScope = some scope)
    (fresh : FreshKey s scope.val.tenantId q.idempotencyKey storageKey)
    (run : IdeaRepository.createPlan q storageKey idempotencyRecord = .ok plan) :
    PlanSound s (.persistCandidate q) plan := by
  simp only [IdeaRepository.createPlan] at run
  obtain ⟨auditEvent, _, run⟩ := Except.seq_returns.mp run
  obtain ⟨entry, told, run⟩ := Except.seq_returns.mp run
  obtain ⟨record, made, run⟩ := Except.seq_returns.mp run
  cases run
  have fields := Checked.make_eq_ok.mp made
  have tells := CandidateVersionHistoryEntry.ofCandidate_tells told
  have named : PyText.isBlank q.candidate.val.candidateId = false := by
    have valid := q.candidate.valid
    simp only [IdeaCandidateFields.checks, firstFailure_cons, requireText_passes] at valid
    exact valid.1
  exact
    { accepting := rfl
      unseen := fresh.unseen
      key := fresh.filled
      changes := by
        rw [absent]
        exact .created q rfl rfl entry (by rw [fields]) (by rw [fields]; exact tells)
          (by rw [fields]) (by rw [fields]) (by rw [fields])
      recordId := Or.inl rfl
      candidateId := Or.inl named
      admitted := by
        refine ⟨scope, ?_, fresh.shape⟩
        simp only [scopedCandidate, absent, Option.getD_none, fields]
        exact tenant
      event := ⟨by simp [supportedOutboxEventTypes], rfl, rfl, rfl, rfl,
        by simp [IdeaRepository.candidateEventPayload, forbiddenOutboxPayloadKeys]⟩ }

theorem reconciledPlan_sound {q : PersistRequest} {existing : CandidatePersistenceRecord}
    {decision : PersistenceDecision} {candidate : IdeaCandidate}
    (stored : s.candidateRecords.get? q.candidate.val.candidateId = some existing)
    (tenant : existing.val.candidate.val.accessScope = some scope)
    (fresh : FreshKey s scope.val.tenantId q.idempotencyKey storageKey)
    (accepting : decision.isAccepting = true)
    (next : NextVersion existing.val.candidate candidate)
    (same : candidate.val.candidateId = q.candidate.val.candidateId)
    (run : IdeaRepository.reconciledPlan existing q decision candidate storageKey
      idempotencyRecord = .ok plan) : PlanSound s (.persistCandidate q) plan := by
  simp only [IdeaRepository.reconciledPlan] at run
  obtain ⟨eventType, typed, run⟩ := Except.seq_returns.mp run
  obtain ⟨auditEvent, _, run⟩ := Except.seq_returns.mp run
  obtain ⟨entry, told, run⟩ := Except.seq_returns.mp run
  obtain ⟨record, made, run⟩ := Except.seq_returns.mp run
  cases run
  have fields := Checked.make_eq_ok.mp made
  have tells := CandidateVersionHistoryEntry.ofCandidate_tells told
  have supported : eventType ++ ".v1" ∈ supportedOutboxEventTypes := by
    cases decision <;> cases typed <;> simp [supportedOutboxEventTypes]
  exact .onRecord stored tenant fresh accepting (Or.inl rfl)
    (.reconciled entry (by rw [fields]; exact next) (by rw [fields]; exact tells)
      (by rw [fields]) (by rw [fields]) (by rw [fields]))
    ⟨supported, same, rfl, rfl, rfl,
      by simp [IdeaRepository.candidateEventPayload, forbiddenOutboxPayloadKeys]⟩

theorem persistPlan_sound {q : PersistRequest} (run : s.persistPlan q = .ok plan) :
    PlanSound s (.persistCandidate q) plan := by
  simp only [IdeaRepository.persistPlan] at run
  obtain ⟨_, _, run⟩ := Except.seq_returns.mp run
  obtain ⟨scope, authoritative, run⟩ := Except.seq_returns.mp run
  obtain ⟨_, _, run⟩ := Except.seq_returns.mp run
  obtain ⟨admission, admitted, run⟩ := Except.seq_returns.mp run
  have tenant : q.candidate.val.accessScope = some scope := by
    unfold IdeaRepository.requireAuthoritativeScope at authoritative
    split at authoritative
    · cases authoritative
    · rename_i own held
      split at authoritative
      · cases authoritative
        exact held
      · cases authoritative
  cases admission with
  | answered result =>
      cases run
      exact admit_answered admitted
  | fresh storageKey idempotencyRecord =>
      have fresh := admit_fresh admitted
      cases stored : s.candidateRecords.get? q.candidate.val.candidateId with
      | none =>
          rw [stored] at run
          exact createPlan_sound stored tenant fresh run
      | some existing =>
          simp only [stored, IdeaRepository.reconcilePlan] at run
          obtain ⟨reconciliation, reconciled, run⟩ := Except.seq_returns.mp run
          rcases reconcileCandidate_cases reconciled with
            rfl | rfl | ⟨next, held, same, later, accepting⟩
          · cases run
            rfl
          · cases run
            rfl
          · obtain ⟨candidateId, accessScope⟩ := sameBusinessScope_keeps same
            have scopeOfExisting : existing.val.candidate.val.accessScope = some scope := by
              rw [← accessScope, tenant]
            have named : next.val.candidateId = q.candidate.val.candidateId := by
              rw [later.candidateId, candidateId]
            rcases accepting with decided | decided | decided <;>
              simp only [decided, held, reduceCtorEq, if_false] at run <;>
              exact reconciledPlan_sound stored scopeOfExisting fresh rfl later named run

omit [Sha256] in
theorem transitionRecord_step {record updated : CandidatePersistenceRecord}
    {targetStatus : IdeaLifecycleStatus} {actorSubject : String} {occurredAtUtc : DateTime}
    {attributes : List (String × String)} {auditEvent : AuditEvent}
    (run : IdeaRepository.transitionRecord record targetStatus actorSubject occurredAtUtc
      attributes = .ok (updated, auditEvent)) (c : RepositoryCall) (id : String) :
    RecordStep c id (some record) updated := by
  simp only [IdeaRepository.transitionRecord] at run
  obtain ⟨transitioned, moved, run⟩ := Except.seq_returns.mp run
  obtain ⟨_, _, run⟩ := Except.seq_returns.mp run
  obtain ⟨_, _, run⟩ := Except.seq_returns.mp run
  obtain ⟨made, created, run⟩ := Except.seq_returns.mp run
  cases run
  have fields := Checked.make_eq_ok.mp created
  exact .transitioned targetStatus occurredAtUtc (by rw [fields]; exact moved) (by rw [fields])
    (by rw [fields]) (by rw [fields])

theorem lifecyclePlan_sound {q : IdeaRepository.LifecycleRequest} (run : s.lifecyclePlan q = .ok plan) :
    PlanSound s (.recordLifecycleTransition q) plan := by
  simp only [IdeaRepository.lifecyclePlan] at run
  obtain ⟨_, _, run⟩ := Except.seq_returns.mp run
  rcases planForRecord_returns run with
    ⟨result, rfl, refused⟩ | ⟨record, scope, storageKey, ir, stored, tenant, fresh, run⟩
  · exact refused
  · obtain ⟨⟨updated, auditEvent⟩, moved, run⟩ := Except.seq_returns.mp run
    cases run
    exact .onRecord stored tenant fresh rfl (Or.inr rfl)
      (transitionRecord_step moved _ _)
      ⟨by simp [supportedOutboxEventTypes], rfl, rfl, rfl, rfl,
        by simp [forbiddenOutboxPayloadKeys]⟩

theorem reviewPlan_sound {q : ResultRequest ReviewActionResult} (run : s.reviewPlan q = .ok plan) :
    PlanSound s (.recordReviewAction q) plan := by
  simp only [IdeaRepository.reviewPlan] at run
  obtain ⟨_, _, run⟩ := Except.seq_returns.mp run
  rcases planForRecord_returns run with
    ⟨result, rfl, refused⟩ | ⟨record, scope, storageKey, ir, stored, tenant, fresh, run⟩
  · exact refused
  split at run
  · rename_i seen
    cases run
    exact identityPlan_sound rfl seen
  · simp only [IdeaRepository.reviewedPlan] at run
    obtain ⟨_, source, run⟩ := Except.seq_returns.mp run
    obtain ⟨history, _, run⟩ := Except.seq_returns.mp run
    obtain ⟨updated, made, run⟩ := Except.seq_returns.mp run
    cases run
    have fields := Checked.make_eq_ok.mp made
    have same := validate_eq_ok.mp source
    simp only [firstFailure_cons, Bool.not_eq_false'] at same
    exact .onRecord stored tenant fresh rfl (Or.inl rfl)
      (.reviewed q rfl same.1 (by rw [fields]) (by rw [fields]) (by rw [fields]) (by rw [fields]))
      ⟨by simp [supportedOutboxEventTypes], rfl, rfl, rfl, rfl,
        by simp [forbiddenOutboxPayloadKeys]⟩

theorem feedbackPlan_sound {q : ResultRequest FeedbackResult} (run : s.feedbackPlan q = .ok plan) :
    PlanSound s (.recordFeedbackEvent q) plan := by
  simp only [IdeaRepository.feedbackPlan] at run
  obtain ⟨_, _, run⟩ := Except.seq_returns.mp run
  rcases planForRecord_returns run with
    ⟨result, rfl, refused⟩ | ⟨record, scope, storageKey, ir, stored, tenant, fresh, run⟩
  · exact refused
  split at run
  · rename_i seen
    cases run
    exact identityPlan_sound rfl seen
  · simp only [IdeaRepository.feedbackRecordedPlan] at run
    obtain ⟨updated, made, run⟩ := Except.seq_returns.mp run
    cases run
    have fields := Checked.make_eq_ok.mp made
    exact .onRecord stored tenant fresh rfl (Or.inl rfl)
      (.annotated (by rw [fields]) (by rw [fields]) (by rw [fields]) (by rw [fields]))
      ⟨by simp [supportedOutboxEventTypes], rfl, rfl, rfl, rfl,
        by simp [forbiddenOutboxPayloadKeys]⟩

omit [Sha256] in
theorem grantIsHeld_required {grant : ReviewAuthorityGrant}
    {decisions : List GovernedReviewDecision} {held : Bool} {refused : PyError}
    (run : grantIsHeld grant decisions = .ok held)
    (passed : validate [(!held, refused)] = .ok ()) :
    ∃ decision ∈ decisions, decision.authorityGrant = .ok (some grant) := by
  have isHeld := validate_eq_ok.mp passed
  simp only [firstFailure_cons, Bool.not_eq_false'] at isHeld
  rw [isHeld.1] at run
  exact grantIsHeld_true run

theorem conversionPlan_sound {q : ResultRequest ConversionIntentResult}
    (run : s.conversionPlan q = .ok plan) : PlanSound s (.recordConversionIntent q) plan := by
  simp only [IdeaRepository.conversionPlan] at run
  obtain ⟨_, _, run⟩ := Except.seq_returns.mp run
  rcases planForRecord_returns run with
    ⟨result, rfl, refused⟩ | ⟨record, scope, storageKey, ir, stored, tenant, fresh, run⟩
  · exact refused
  simp only [IdeaRepository.convertedPlan] at run
  obtain ⟨_, source, run⟩ := Except.seq_returns.mp run
  have same := validate_eq_ok.mp source
  simp only [firstFailure_cons, Bool.not_eq_false'] at same
  split at run
  · cases run
  rename_i grant carried
  obtain ⟨held, checked, run⟩ := Except.seq_returns.mp run
  obtain ⟨_, isHeld, run⟩ := Except.seq_returns.mp run
  obtain ⟨history, _, run⟩ := Except.seq_returns.mp run
  obtain ⟨updated, made, run⟩ := Except.seq_returns.mp run
  cases run
  have fields := Checked.make_eq_ok.mp made
  exact .onRecord stored tenant fresh rfl (Or.inl rfl)
    (.converted q rfl same.1 (by rw [fields]) grant carried (grantIsHeld_required checked isHeld)
      (by rw [fields]) (by rw [fields]) (by rw [fields]))
    ⟨by simp [supportedOutboxEventTypes], rfl, rfl, rfl, rfl,
      by simp [forbiddenOutboxPayloadKeys]⟩

theorem outcomePlan_sound {q : ResultRequest ConversionOutcomeResult}
    (run : s.outcomePlan q = .ok plan) : PlanSound s (.recordConversionOutcome q) plan := by
  simp only [IdeaRepository.outcomePlan] at run
  obtain ⟨_, _, run⟩ := Except.seq_returns.mp run
  split at run
  · cases run
    rfl
  rename_i candidateId _
  rcases planForRecord_returns run with
    ⟨result, rfl, refused⟩ | ⟨record, scope, storageKey, ir, stored, tenant, fresh, run⟩
  · exact refused
  unfold IdeaRepository.outcomeNextPlan at run
  split at run
  · rename_i seen
    cases run
    exact identityPlan_sound rfl seen
  split at run
  · cases run
    rfl
  simp only [IdeaRepository.outcomeAcceptedPlan] at run
  obtain ⟨updated, made, run⟩ := Except.seq_returns.mp run
  cases run
  have fields := Checked.make_eq_ok.mp made
  exact .onRecord stored tenant fresh rfl (Or.inl rfl)
    (.annotated (by rw [fields]) (by rw [fields]) (by rw [fields]) (by rw [fields]))
    ⟨by simp [supportedOutboxEventTypes], rfl, rfl, rfl, rfl,
      by simp [forbiddenOutboxPayloadKeys]⟩

theorem packPlan_sound {q : ResultRequest ReportEvidencePackResult}
    (run : s.packPlan q = .ok plan) : PlanSound s (.recordReportEvidencePack q) plan := by
  simp only [IdeaRepository.packPlan] at run
  obtain ⟨_, _, run⟩ := Except.seq_returns.mp run
  rcases planForRecord_returns run with
    ⟨result, rfl, refused⟩ | ⟨record, scope, storageKey, ir, stored, tenant, fresh, run⟩
  · exact refused
  simp only [IdeaRepository.packedPlan] at run
  obtain ⟨updated, made, run⟩ := Except.seq_returns.mp run
  cases run
  have fields := Checked.make_eq_ok.mp made
  exact .onRecord stored tenant fresh rfl (Or.inl rfl)
    (.annotated (by rw [fields]) (by rw [fields]) (by rw [fields]) (by rw [fields]))
    ⟨by simp [supportedOutboxEventTypes], rfl, rfl, rfl, rfl,
      by simp [forbiddenOutboxPayloadKeys]⟩

/-- Whatever plan a mutation settles on is sound. -/
theorem plan_sound {c : MutationCall} (run : c.plan s = .ok plan) : PlanSound s c plan := by
  cases c with
  | persistCandidate q => exact persistPlan_sound run
  | recordLifecycleTransition q => exact lifecyclePlan_sound run
  | recordReviewAction q => exact reviewPlan_sound run
  | recordFeedbackEvent q => exact feedbackPlan_sound run
  | recordConversionIntent q => exact conversionPlan_sound run
  | recordConversionOutcome q => exact outcomePlan_sound run
  | recordReportEvidencePack q => exact packPlan_sound run

end Plans

/-! ## What a call does to the repository -/

/-- The answer of a mutation and the state it leaves: nothing is written before
the plan stands, and the outbox event is the last write. -/
inductive MutationEffect (s : IdeaRepository) (c : MutationCall) :
    Except PyError PersistenceResult × IdeaRepository → Prop where
  | refused (error : PyError) (raised : c.plan s = .error error) : MutationEffect s c (.error error, s)
  | answered (result : PersistenceResult) (refuses : result.decision.isAccepting = false) :
      MutationEffect s c (.ok result, s)
  | bound (result : PersistenceResult) (storageKey : String)
      (idempotencyRecord : IdempotencyRecord) (candidateId : String)
      (refuses : result.decision.isAccepting = false) :
      MutationEffect s c
        (.ok result, s.bindIdempotency storageKey idempotencyRecord candidateId)
  | cut (m : AcceptedMutation) (planned : c.plan s = .ok (.accept m)) (accepted : Accepted s c m)
      (error : PyError) (unbuilt : m.event.build = .error error) :
      MutationEffect s c (.error error, s.write m)
  | written (m : AcceptedMutation) (planned : c.plan s = .ok (.accept m))
      (accepted : Accepted s c m) (event : OutboxEventRecord) (built : m.event.build = .ok event) :
      MutationEffect s c (.ok m.result, (s.write m).appendEvent event)

theorem mutate_effect (s : IdeaRepository) (c : MutationCall) : MutationEffect s c (s.mutate c) := by
  unfold IdeaRepository.mutate IdeaRepository.runPlan
  cases planned : c.plan s with
  | error raised => exact .refused raised planned
  | ok plan =>
      have sound := plan_sound planned
      cases plan with
      | answer result => exact .answered result sound
      | rebind result storageKey record candidateId =>
          exact .bound result storageKey record candidateId sound
      | accept m =>
          simp only [IdeaRepository.commit]
          cases built : m.event.build with
          | error raised => exact .cut m planned sound raised built
          | ok event => exact .written m planned sound event built

theorem Accepted.recordId_eq {s : IdeaRepository} (keyed : s.Keyed) {c : MutationCall}
    {m : AcceptedMutation} (accepted : Accepted s c m) : m.recordId = m.candidateId := by
  rcases accepted.recordId with same | ⟨old, stored, own⟩
  · exact same
  · rw [own, keyed _ _ stored]

/-- The records after a mutation. -/
theorem mutate_record {s : IdeaRepository} (keyed : s.Keyed) (c : MutationCall) (id : String) :
    (s.mutate c).2.candidateRecords.get? id = s.candidateRecords.get? id ∨
    ∃ new, (s.mutate c).2.candidateRecords.get? id = some new ∧
      RecordStep (.mutate c) id (s.candidateRecords.get? id) new := by
  have written : ∀ m, Accepted s c m →
      (s.write m).candidateRecords.get? id = s.candidateRecords.get? id ∨
      ∃ new, (s.write m).candidateRecords.get? id = some new ∧
        RecordStep (.mutate c) id (s.candidateRecords.get? id) new := by
    intro m accepted
    simp only [IdeaRepository.write, accepted.recordId_eq keyed]
    by_cases here : id = m.candidateId
    · subst here
      exact Or.inr ⟨m.record, Dict.get?_set_self _ _ _, accepted.changes⟩
    · exact Or.inl (Dict.get?_set_of_ne _ here)
  cases effect : s.mutate c with
  | mk answer next =>
      have cases_ := mutate_effect s c
      rw [effect] at cases_
      cases cases_ with
      | refused error _ => exact Or.inl rfl
      | answered result _ => exact Or.inl rfl
      | bound result _ _ _ _ => exact Or.inl rfl
      | cut m _ accepted error _ => exact written m accepted
      | written m _ accepted event _ => exact written m accepted

/-- The repository as it was, or with one idempotency key bound. -/
def KeyBound (s next : IdeaRepository) : Prop :=
  next = s ∨ ∃ storageKey idempotencyRecord candidateId,
    next = s.bindIdempotency storageKey idempotencyRecord candidateId

theorem KeyBound.candidateRecords {s next : IdeaRepository} (bound : KeyBound s next) :
    next.candidateRecords = s.candidateRecords := by
  rcases bound with rfl | ⟨_, _, _, rfl⟩ <;> rfl

theorem precheck_keyBound (s : IdeaRepository) {α : Type} (q : PrecheckRequest α)
    {existing : Option (Bool × CandidatePersistenceRecord)} {mismatch : PersistenceDecision} :
    KeyBound s (s.precheck q (IdeaRepository.identityPlan existing mismatch)).2 := by
  unfold IdeaRepository.precheck
  split
  · exact Or.inl rfl
  split
  · exact Or.inl rfl
  · exact Or.inl rfl
  split
  · exact Or.inl rfl
  · rename_i storageKey idempotencyRecord _ _ plan seen
    unfold IdeaRepository.identityPlan at seen
    obtain ⟨⟨same, record⟩, _, made⟩ := Option.map_eq_some_iff.mp seen
    cases same with
    | true =>
        cases made
        exact Or.inr ⟨_, _, _, rfl⟩
    | false =>
        cases made
        exact Or.inl rfl

theorem transition_record {s : IdeaRepository} (keyed : s.Keyed) (q : TransitionRequest)
    (id : String) :
    (s.transitionCandidate q).2.candidateRecords.get? id = s.candidateRecords.get? id ∨
    ∃ new, (s.transitionCandidate q).2.candidateRecords.get? id = some new ∧
      RecordStep (.transition q) id (s.candidateRecords.get? id) new := by
  unfold IdeaRepository.transitionCandidate
  split
  · exact Or.inl rfl
  split
  · exact Or.inl rfl
  rename_i record stored
  split
  · exact Or.inl rfl
  rename_i updated auditEvent moved
  have own := keyed _ _ stored
  by_cases here : id = q.candidateId
  · subst here
    refine Or.inr ⟨updated, ?_, ?_⟩
    · rw [own]
      exact Dict.get?_set_self _ _ _
    · rw [stored]
      exact transitionRecord_step moved _ _
  · rw [own]
    exact Or.inl (Dict.get?_set_of_ne _ here)

theorem deliveryRun_records (s : IdeaRepository) (idempotencyKey : String) (payload : Json) :
    (s.recordOutboxDeliveryRunRequest idempotencyKey payload).2.candidateRecords =
      s.candidateRecords := by
  unfold IdeaRepository.recordOutboxDeliveryRunRequest
  split
  · rfl
  · simp only
    split <;> rfl

/-- A lineage annotates the record of its candidate. -/
theorem LineageAccepted.record {s : IdeaRepository} {q : LineageRequest}
    {lineage : AIExplanationLineageRecord} {record updated : CandidatePersistenceRecord}
    (accepted : LineageAccepted s q lineage record updated) (c : RepositoryCall) (id : String) :
    (s.writeLineage q lineage updated).candidateRecords.get? id = s.candidateRecords.get? id ∨
    ∃ new, (s.writeLineage q lineage updated).candidateRecords.get? id = some new ∧
      RecordStep c id (s.candidateRecords.get? id) new := by
  simp only [IdeaRepository.writeLineage]
  by_cases here : id = lineage.val.candidateId
  · subst here
    refine Or.inr ⟨updated, Dict.get?_set_self _ _ _, ?_⟩
    rw [accepted.stored]
    exact .annotated (by rw [accepted.fields]) (by rw [accepted.fields]) (by rw [accepted.fields])
      (by rw [accepted.fields])
  · exact Or.inl (Dict.get?_set_of_ne _ here)

/-- The repository as it was, or with an accepted lineage written and perhaps its
idempotency key bound. -/
inductive LineageWrites (s : IdeaRepository) (q : LineageRequest) : IdeaRepository → Prop where
  | same : LineageWrites s q s
  | written (lineage : AIExplanationLineageRecord) (record updated : CandidatePersistenceRecord)
      (accepted : LineageAccepted s q lineage record updated) :
      LineageWrites s q (s.writeLineage q lineage updated)
  | keyed (lineage : AIExplanationLineageRecord) (record updated : CandidatePersistenceRecord)
      (accepted : LineageAccepted s q lineage record updated) (storageKey : String)
      (idempotencyRecord : IdempotencyRecord) (candidateId : String) :
      LineageWrites s q
        ((s.writeLineage q lineage updated).bindIdempotency storageKey idempotencyRecord candidateId)

theorem lineage_writes (s : IdeaRepository) (q : LineageRequest) :
    LineageWrites s q (s.recordAIExplanationLineage q).2 := by
  have effect := lineage_effect s q
  cases run : s.recordAIExplanationLineage q with
  | mk answer next =>
      rw [run] at effect
      cases effect with
      | refused error => exact .same
      | answered result planned => exact .same
      | written lineage record updated accepted => exact .written lineage record updated accepted

theorem lineageRequest_writes (s : IdeaRepository) (q : LineageRequest) (key : String)
    (payload : Json) : LineageWrites s q (s.recordAIExplanationLineageRequest q key payload).2 := by
  have effect := lineageRequest_effect s q key payload
  cases run : s.recordAIExplanationLineageRequest q key payload with
  | mk answer next =>
      rw [run] at effect
      cases effect with
      | refused error => exact .same
      | notFound _ => exact .same
      | answered _ _ _ _ _ _ => exact .same
      | unbound _ _ _ _ _ _ _ _ _ => exact .same
      | written lineage record updated scope storageKey ir _ _ accepted =>
          exact .keyed lineage record updated accepted storageKey ir q.candidateId

section
variable {s next : IdeaRepository} {q : LineageRequest}

theorem LineageWrites.record (writes : LineageWrites s q next) (c : RepositoryCall) (id : String) :
    next.candidateRecords.get? id = s.candidateRecords.get? id ∨
    ∃ new, next.candidateRecords.get? id = some new ∧
      RecordStep c id (s.candidateRecords.get? id) new := by
  cases writes with
  | same => exact Or.inl rfl
  | written lineage record updated accepted => exact accepted.record c id
  | keyed lineage record updated accepted _ _ _ => exact accepted.record c id

/-- No record stands where none stood. -/
theorem LineageWrites.present (writes : LineageWrites s q next) {id : String}
    {record : CandidatePersistenceRecord} (stored : next.candidateRecords.get? id = some record) :
    ∃ old, s.candidateRecords.get? id = some old := by
  have written : ∀ lineage record updated, LineageAccepted s q lineage record updated →
      (s.writeLineage q lineage updated).candidateRecords.get? id ≠ none →
      ∃ old, s.candidateRecords.get? id = some old := by
    intro lineage record updated accepted there
    by_cases here : id = lineage.val.candidateId
    · exact ⟨record, by rw [here]; exact accepted.stored⟩
    · simp only [IdeaRepository.writeLineage, Dict.get?_set_of_ne updated here] at there
      exact Option.ne_none_iff_exists'.mp there
  cases writes with
  | same => exact ⟨record, stored⟩
  | written lineage _ updated accepted =>
      exact written lineage _ updated accepted (by rw [stored]; simp)
  | keyed lineage _ updated accepted storageKey ir candidateId =>
      have there : (s.writeLineage q lineage updated).candidateRecords.get? id = some record := stored
      exact written lineage _ updated accepted (by rw [there]; simp)

theorem LineageWrites.outbox (writes : LineageWrites s q next) : next.outbox = s.outbox := by
  cases writes <;> rfl

theorem LineageWrites.keys (writes : LineageWrites s q next) :
    ∀ key, (s.idempotencyRecords.get? key).isSome → (next.idempotencyRecords.get? key).isSome := by
  intro key seen
  cases writes with
  | same => exact seen
  | written lineage record updated accepted => exact seen
  | keyed lineage record updated accepted _ _ _ => exact Dict.isSome_get?_set _ _ seen

end

/-- A presentation receipt touches nothing but the receipts. -/
theorem presentation_frame (s : IdeaRepository) (receipt : CandidatePresentationReceipt) :
    ∃ receipts, (s.recordPresentationReceipt receipt).2 =
      { s with presentationReceipts := receipts } := by
  have effect := presentation_effect s receipt
  cases run : s.recordPresentationReceipt receipt with
  | mk answer next =>
      rw [run] at effect
      cases effect with
      | refused error => exact ⟨s.presentationReceipts, rfl⟩
      | answered result _ => exact ⟨s.presentationReceipts, rfl⟩
      | written record _ _ _ => exact ⟨_, rfl⟩

/-- A call leaves the record of an id alone or moves it by a record step. -/
theorem step_record {s : IdeaRepository} (keyed : s.Keyed) (c : RepositoryCall) (id : String) :
    (s.step c).candidateRecords.get? id = s.candidateRecords.get? id ∨
    ∃ new, (s.step c).candidateRecords.get? id = some new ∧
      RecordStep c id (s.candidateRecords.get? id) new := by
  cases c with
  | mutate c => exact mutate_record keyed c id
  | transition q => exact transition_record keyed q id
  | precheckReview q =>
      have bound : KeyBound s (s.precheckReviewMutation q).2 := precheck_keyBound s q
      exact Or.inl (by rw [IdeaRepository.step, bound.candidateRecords])
  | precheckOutcome q =>
      have bound : KeyBound s (s.precheckConversionOutcomeMutation q).2 := precheck_keyBound s q
      exact Or.inl (by rw [IdeaRepository.step, bound.candidateRecords])
  | requestDeliveryRun key payload =>
      exact Or.inl (by rw [IdeaRepository.step, deliveryRun_records])
  | deliver c => exact Or.inl rfl
  | recordLineage q => exact (lineage_writes s q).record _ id
  | recordLineageRequest q key payload => exact (lineageRequest_writes s q key payload).record _ id
  | recordPresentation receipt =>
      obtain ⟨receipts, same⟩ := presentation_frame s receipt
      exact Or.inl (by rw [IdeaRepository.step, same])

/-! ## What a governed step keeps -/

/-- The candidate rests on the same evidence under the same identity and scope. -/
structure SameStanding (old new : IdeaCandidate) : Prop where
  candidateId : new.val.candidateId = old.val.candidateId
  identity : new.val.identity = old.val.identity
  accessScope : new.val.accessScope = old.val.accessScope
  evidence : CandidateEvidenceIdentity.fromCandidate new =
    CandidateEvidenceIdentity.fromCandidate old

theorem SameEvidence.standing {old new : IdeaCandidate} (same : SameEvidence old new) :
    SameStanding old new :=
  ⟨same.candidateId, same.identity, same.accessScope, same.fromCandidate⟩

/-- The repository compares candidates by Python equality before it takes a result. -/
theorem standing_of_equals {old source new : IdeaCandidate} (equal : old.equals source = true)
    (same : SameEvidence source new) : SameStanding old new where
  candidateId := by rw [same.candidateId, IdeaCandidate.candidateId_of_equals equal]
  identity := by rw [same.identity, IdeaCandidate.identity_of_equals equal]
  accessScope := by rw [same.accessScope, IdeaCandidate.accessScope_of_equals equal]
  evidence := by
    rw [same.fromCandidate, CandidateEvidenceIdentity.fromCandidate_of_equals equal]

theorem SameStanding.version {old new : IdeaCandidate} (same : SameStanding old new) :
    new.version = old.version := by
  simp only [IdeaCandidate.version, same.identity]

/-- The next version of the candidate, recorded at the end of the history. -/
structure Reconciled (old new : CandidatePersistenceRecord) : Prop where
  next : NextVersion old.val.candidate new.val.candidate
  history : ∃ entry : CandidateVersionHistoryEntry,
    entry.Tells new.val.candidate.val.identity ∧
      new.val.versionHistory = old.val.versionHistory ++ [entry]
  decisions : new.val.reviewDecisions = old.val.reviewDecisions
  intents : new.val.conversionIntents = old.val.conversionIntents

/-- The candidate keeps its standing and the record its history. -/
structure Standing (old new : CandidatePersistenceRecord) : Prop where
  candidate : SameStanding old.val.candidate new.val.candidate
  history : new.val.versionHistory = old.val.versionHistory
  decisions : ∀ decision ∈ new.val.reviewDecisions, decision ∈ old.val.reviewDecisions ∨
    decision.candidateEvidence = CandidateEvidenceIdentity.fromCandidate new.val.candidate

/-- A governed step on a stored record is a reconciliation or keeps the standing. -/
theorem RecordStep.moves {c : RepositoryCall} {id : String} {old new : CandidatePersistenceRecord}
    (governed : c.Governed) (step : RecordStep c id (some old) new) :
    Reconciled old new ∨ Standing old new := by
  cases step with
  | reconciled entry next told history decisions intents =>
      exact Or.inl ⟨next, ⟨entry, told, history⟩, decisions, intents⟩
  | transitioned _ _ moved history decisions _ =>
      refine Or.inr ⟨(transitionCandidate_sameEvidence moved).standing, history, ?_⟩
      intro decision member
      rw [decisions] at member
      exact Or.inl member
  | reviewed q isReview source candidate history decisions _ =>
      subst isReview
      obtain ⟨origin, command, acceptedAtUtc, receipt, policy, run⟩ := governed
      obtain ⟨isOrigin, same, decidedOn, _⟩ := applyReviewAction_returns run
      rw [isOrigin] at source
      have standing := standing_of_equals source same
      rw [← candidate] at standing same
      refine Or.inr ⟨standing, history, ?_⟩
      intro decision member
      rw [decisions, List.mem_append, List.mem_singleton] at member
      rcases member with held | rfl
      · exact Or.inl held
      · exact Or.inr (decidedOn.trans same.fromCandidate.symm)
  | converted q isConversion source candidate _ _ _ history decisions _ =>
      subst isConversion
      obtain ⟨origin, command, acceptedAtUtc, grant, run⟩ := governed
      obtain ⟨isOrigin, same, _⟩ := requestConversionIntent_returns run
      rw [isOrigin] at source
      have standing := standing_of_equals source same
      rw [← candidate] at standing
      refine Or.inr ⟨standing, history, ?_⟩
      intro decision member
      rw [decisions] at member
      exact Or.inl member
  | annotated candidate history decisions _ =>
      refine Or.inr ⟨?_, history, ?_⟩
      · rw [candidate]
        exact (SameEvidence.refl _).standing
      · intro decision member
        rw [decisions] at member
        exact Or.inl member

theorem RecordStep.candidateId {c : RepositoryCall} {id : String}
    {old new : CandidatePersistenceRecord} (governed : c.Governed)
    (step : RecordStep c id (some old) new) :
    new.val.candidate.val.candidateId = old.val.candidate.val.candidateId := by
  rcases step.moves governed with reconciled | standing
  · exact reconciled.next.candidateId
  · exact standing.candidate.candidateId

theorem RecordStep.accessScope {c : RepositoryCall} {id : String}
    {old new : CandidatePersistenceRecord} (governed : c.Governed)
    (step : RecordStep c id (some old) new) :
    new.val.candidate.val.accessScope = old.val.candidate.val.accessScope := by
  rcases step.moves governed with reconciled | standing
  · exact reconciled.next.accessScope
  · exact standing.candidate.accessScope

theorem keyed_after_step {s : IdeaRepository} (keyed : s.Keyed) {c : RepositoryCall}
    (governed : c.Governed) : (s.step c).Keyed := by
  intro id record stored
  rcases step_record keyed c id with same | ⟨new, now, step⟩
  · rw [same] at stored
    exact keyed id record stored
  · rw [now] at stored
    cases stored
    cases before : s.candidateRecords.get? id with
    | none =>
        rw [before] at step
        cases step with
        | created q _ named _ candidate _ _ _ _ =>
            rw [candidate]
            exact named
    | some old =>
        rw [before] at step
        rw [step.candidateId governed]
        exact keyed id old before

theorem keyed_empty : IdeaRepository.empty.Keyed := by
  intro id record stored
  simp [IdeaRepository.empty] at stored

theorem keyed_after_run {calls : List RepositoryCall} {s : IdeaRepository} (keyed : s.Keyed)
    (governed : ∀ c ∈ calls, c.Governed) : (s.run calls).Keyed :=
  Runs.invariant IdeaRepository.step RepositoryCall.Governed IdeaRepository.Keyed
    (fun _ _ good inv => keyed_after_step inv good) keyed governed

/-- What every governed step keeps of a candidate record holds of the records of
every run: `Kept` is established when a record is created and kept by each step. -/
theorem run_records (Kept : String → CandidatePersistenceRecord → Prop)
    (creates : ∀ c id new, RepositoryCall.Governed c → RecordStep c id none new → Kept id new)
    (keeps : ∀ c id old new, RepositoryCall.Governed c → RecordStep c id (some old) new →
      Kept id old → Kept id new)
    {calls : List RepositoryCall} (governed : ∀ c ∈ calls, c.Governed) (id : String)
    {record : CandidatePersistenceRecord}
    (stored : (IdeaRepository.empty.run calls).candidateRecords.get? id = some record) :
    Kept id record := by
  let Inv (s : IdeaRepository) : Prop :=
    s.Keyed ∧ ∀ id record, s.candidateRecords.get? id = some record → Kept id record
  have preserved : ∀ s c, RepositoryCall.Governed c → Inv s → Inv (s.step c) := by
    intro s c good inv
    refine ⟨keyed_after_step inv.1 good, ?_⟩
    intro id record stored
    rcases step_record inv.1 c id with same | ⟨new, now, step⟩
    · rw [same] at stored
      exact inv.2 id record stored
    · rw [now] at stored
      cases stored
      cases before : s.candidateRecords.get? id with
      | none =>
          rw [before] at step
          exact creates c id _ good step
      | some old =>
          rw [before] at step
          exact keeps c id old _ good step (inv.2 id old before)
  have initially : Inv IdeaRepository.empty :=
    ⟨keyed_empty, fun id record stored => by simp [IdeaRepository.empty] at stored⟩
  exact (Runs.invariant IdeaRepository.step RepositoryCall.Governed Inv preserved initially
    governed).2 id record stored

end

end LotusIdea

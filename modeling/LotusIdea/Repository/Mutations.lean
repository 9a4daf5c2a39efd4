import LotusIdea.Repository.Records

/-!
# Repository mutations

The mutations of `persistence.py`, `persistence_review_workflow.py` and
`persistence_conversion_outcomes.py`.  A mutation first works out a plan from
what is stored, which may raise and writes nothing; `commit` then makes the
writes of an accepted plan in the order of the source, the outbox event last.
-/

set_option autoImplicit false

namespace LotusIdea

/-! ## Plans -/

/-- The arguments of `_append_outbox_event`. -/
structure CandidateEventRequest where
  eventType : String
  aggregateId : String
  occurredAtUtc : DateTime
  idempotencyKey : String
  eventLineage : Option EventLineageContext
  payload : List (String × PayloadValue)

/-- What an accepted mutation writes; a transition stores the record under its
candidate's own id. -/
structure AcceptedMutation where
  decision : PersistenceDecision
  candidateId : String
  recordId : String := candidateId
  record : CandidatePersistenceRecord
  storageKey : String
  idempotencyRecord : IdempotencyRecord
  conversionIntentId : Option String := none
  reportEvidencePackId : Option String := none
  auditEvent : AuditEvent
  event : CandidateEventRequest

/-- `rebind` records the idempotency key of an answer without a mutation. -/
inductive MutationPlan where
  | answer (result : PersistenceResult)
  | rebind (result : PersistenceResult) (storageKey : String)
      (idempotencyRecord : IdempotencyRecord) (candidateId : String)
  | accept (mutation : AcceptedMutation)

inductive Admission where
  | answered (result : PersistenceResult)
  | fresh (storageKey : String) (idempotencyRecord : IdempotencyRecord)

def AcceptedMutation.result (m : AcceptedMutation) : PersistenceResult :=
  ⟨m.decision, some m.record, some m.auditEvent⟩

def assignOptional (d : Dict String String) (key : Option String) (value : String) :
    Dict String String :=
  key.elim d fun k => d.set k value

/-- `changed_at_utc` of an entry is checked before anything is written. -/
def historyAfter (record : CandidatePersistenceRecord) (candidateId : String)
    (candidate : IdeaCandidate) (actorSubject : String) (changedAtUtc : DateTime) :
    Except PyError (List LifecycleHistoryEntry) := do
  if record.val.candidate.val.lifecycleStatus = candidate.val.lifecycleStatus then
    return record.val.lifecycleHistory
  else
    let entry ← Checked.make LifecycleHistoryEntryFields.checks
      { candidateId := candidateId
        sourceStatus := record.val.candidate.val.lifecycleStatus
        targetStatus := candidate.val.lifecycleStatus
        actorSubject := actorSubject
        changedAtUtc := changedAtUtc }
    return record.val.lifecycleHistory ++ [entry]

/-- The audit event type of a reconciliation, which is also its outbox event's. -/
def reconciliationEventType : PersistenceDecision → Except PyError String
  | .evidenceRefreshed => .ok "idea.candidate.evidence_refreshed"
  | .materialVersionCreated => .ok "idea.candidate.material_version_created"
  | .recurrentConditionReopened => .ok "idea.candidate.recurrent_condition_reopened"
  | _ => .error (.keyError "decision")

/-- Some decision of the record holds exactly this grant. -/
def grantIsHeld (grant : ReviewAuthorityGrant) :
    List GovernedReviewDecision → Except PyError Bool
  | [] => .ok false
  | decision :: rest => do
      let held ← decision.authorityGrant
      if held = some grant then return true else grantIsHeld grant rest

theorem grantIsHeld_true {grant : ReviewAuthorityGrant} {decisions : List GovernedReviewDecision}
    (run : grantIsHeld grant decisions = .ok true) :
    ∃ decision ∈ decisions, decision.authorityGrant = .ok (some grant) := by
  induction decisions with
  | nil => cases run
  | cons decision rest ih =>
      simp only [grantIsHeld] at run
      obtain ⟨held, built, run⟩ := Except.seq_returns.mp run
      by_cases same : held = some grant
      · subst same
        exact ⟨decision, List.mem_cons_self, built⟩
      · rw [if_neg same] at run
        obtain ⟨other, member, holds⟩ := ih run
        exact ⟨other, List.mem_cons_of_mem _ member, holds⟩

section Mutations
variable [Sha256]

def CandidateEventRequest.build (e : CandidateEventRequest) : Except PyError OutboxEventRecord :=
  buildCandidateOutboxEvent e.eventType e.aggregateId e.occurredAtUtc e.payload
    e.idempotencyKey e.eventLineage

namespace IdeaRepository

def bindIdempotency (s : IdeaRepository) (storageKey : String)
    (idempotencyRecord : IdempotencyRecord) (candidateId : String) : IdeaRepository :=
  { s with
    idempotencyRecords := s.idempotencyRecords.set storageKey idempotencyRecord
    idempotencyCandidates := s.idempotencyCandidates.set storageKey candidateId }

/-- The writes before the outbox event. -/
def write (s : IdeaRepository) (m : AcceptedMutation) : IdeaRepository :=
  { s.bindIdempotency m.storageKey m.idempotencyRecord m.candidateId with
    candidateRecords := s.candidateRecords.set m.recordId m.record
    conversionIntentCandidates :=
      assignOptional s.conversionIntentCandidates m.conversionIntentId m.candidateId
    reportEvidencePackCandidates :=
      assignOptional s.reportEvidencePackCandidates m.reportEvidencePackId m.candidateId }

def appendEvent (s : IdeaRepository) (event : OutboxEventRecord) : IdeaRepository :=
  { s with outbox := { s.outbox with events := s.outbox.events.set event.val.eventId event } }

def commit (s : IdeaRepository) : MutationPlan → Except PyError PersistenceResult × IdeaRepository
  | .answer result => (.ok result, s)
  | .rebind result storageKey idempotencyRecord candidateId =>
      (.ok result, s.bindIdempotency storageKey idempotencyRecord candidateId)
  | .accept m =>
      match m.event.build with
      | .error raised => (.error raised, s.write m)
      | .ok event => (.ok m.result, (s.write m).appendEvent event)

def runPlan (s : IdeaRepository) (plan : Except PyError MutationPlan) :
    Except PyError PersistenceResult × IdeaRepository :=
  match plan with
  | .error raised => (.error raised, s)
  | .ok plan => s.commit plan

/-- The idempotency decision that every mutation starts with. -/
def admission (s : IdeaRepository) (tenantId idempotencyKey : String) (payload : Json) :
    Except PyError Admission := do
  let storageKey ← tenantScopedIdempotencyIdentity tenantId idempotencyKey
  match evaluateIdempotency idempotencyKey payload (s.idempotencyRecords.get? storageKey) with
  | (.conflict, _) => return .answered ⟨.conflict, s.recordForStorageKey storageKey, none⟩
  | (.replayed, _) => return .answered ⟨.replayed, s.recordForStorageKey storageKey, none⟩
  | (.accepted, idempotencyRecord) => return .fresh storageKey idempotencyRecord

/-- A mutation of a stored candidate: it is found, its tenant names the key, and
`next` plans for a key that is new. -/
def planForRecord (s : IdeaRepository) (candidateId idempotencyKey : String) (payload : Json)
    (unscoped : PyError)
    (next : CandidatePersistenceRecord → String → IdempotencyRecord → Except PyError MutationPlan) :
    Except PyError MutationPlan :=
  match s.candidateRecords.get? candidateId with
  | none => .ok (.answer ⟨.notFound, none, none⟩)
  | some record =>
      match record.val.candidate.val.accessScope with
      | none => .error unscoped
      | some scope => do
          match ← s.admission scope.val.tenantId idempotencyKey payload with
          | .answered result => return .answer result
          | .fresh storageKey idempotencyRecord => next record storageKey idempotencyRecord

def unscopedPersistence : PyError :=
  .unscopedCandidatePersistence "persisted candidate tenant scope is unavailable"

def unscopedReview : PyError := .valueError "persisted candidate tenant scope is unavailable"

/-! ## Persisting a candidate -/

/-- The keyword arguments that the mutations share. -/
structure MutationRequest where
  idempotencyKey : String
  payload : Json
  eventLineage : Option EventLineageContext := none

/-- `occurred_at_utc` is the given time or the clock's. -/
structure PersistRequest extends MutationRequest where
  candidate : IdeaCandidate
  actorSubject : String
  occurredAtUtc : DateTime

def candidateEventPayload (c : IdeaCandidate) : List (String × PayloadValue) :=
  [("candidate_family", .text c.val.family.value),
   ("lifecycle_status", .text c.val.lifecycleStatus.value),
   ("review_posture", .text c.val.reviewPosture.value)]

/-- The plan for a candidate that is not stored yet. -/
def createPlan (q : PersistRequest) (storageKey : String) (idempotencyRecord : IdempotencyRecord) :
    Except PyError MutationPlan := do
  let evidenceHash := evidenceHashForSourceRefs q.candidate.val.evidencePacket.val.sourceRefs
  let auditEvent ← AuditEvent.create
    { eventType := "idea.candidate.persisted"
      actorSubject := q.actorSubject
      outcome := "accepted"
      occurredAtUtc := q.occurredAtUtc
      attributes :=
        [("candidate_family", q.candidate.val.family.value),
         ("lifecycle_status", q.candidate.val.lifecycleStatus.value),
         ("idempotency_decision", IdempotencyDecision.accepted.value)] }
  let entry ← CandidateVersionHistoryEntry.ofCandidate q.candidate evidenceHash none
    q.occurredAtUtc
  let record ← CandidatePersistenceRecord.create
    { candidate := q.candidate
      evidenceHash := evidenceHash
      persistedAtUtc := q.occurredAtUtc
      versionHistory := [entry]
      auditEvents := [auditEvent] }
  return .accept
    { decision := .accepted
      candidateId := q.candidate.val.candidateId
      record := record
      storageKey := storageKey
      idempotencyRecord := idempotencyRecord
      auditEvent := auditEvent
      event :=
        { eventType := "idea.candidate.persisted.v1"
          aggregateId := q.candidate.val.candidateId
          occurredAtUtc := q.occurredAtUtc
          idempotencyKey := q.idempotencyKey
          eventLineage := q.eventLineage
          payload := candidateEventPayload q.candidate } }

/-- The accepted branch of `_reconcile_existing_candidate`. -/
def reconciledPlan (existing : CandidatePersistenceRecord) (q : PersistRequest)
    (decision : PersistenceDecision) (candidate : IdeaCandidate) (storageKey : String)
    (idempotencyRecord : IdempotencyRecord) : Except PyError MutationPlan := do
  let evidenceHash := evidenceHashForSourceRefs q.candidate.val.evidencePacket.val.sourceRefs
  let eventType ← reconciliationEventType decision
  let auditEvent ← AuditEvent.create
    { eventType := eventType
      actorSubject := q.actorSubject
      outcome := "accepted"
      occurredAtUtc := q.occurredAtUtc
      attributes :=
        [("candidate_family", candidate.val.family.value),
         ("source_lifecycle_status", existing.val.candidate.val.lifecycleStatus.value),
         ("resulting_lifecycle_status", candidate.val.lifecycleStatus.value),
         ("change_reason", candidate.val.identity.val.changeReason.value),
         ("material_version", toString candidate.val.identity.val.materialVersion),
         ("evidence_version", toString candidate.val.identity.val.evidenceVersion)] }
  let entry ← CandidateVersionHistoryEntry.ofCandidate candidate evidenceHash
    (some existing.val.candidate.val.lifecycleStatus) q.occurredAtUtc
  let record ← CandidatePersistenceRecord.create
    { existing.val with
      candidate := candidate
      evidenceHash := evidenceHash
      versionHistory := existing.val.versionHistory ++ [entry]
      auditEvents := existing.val.auditEvents ++ [auditEvent] }
  return .accept
    { decision := decision
      candidateId := q.candidate.val.candidateId
      record := record
      storageKey := storageKey
      idempotencyRecord := idempotencyRecord
      auditEvent := auditEvent
      event :=
        { eventType := eventType ++ ".v1"
          aggregateId := candidate.val.candidateId
          occurredAtUtc := q.occurredAtUtc
          idempotencyKey := q.idempotencyKey
          eventLineage := q.eventLineage
          payload := candidateEventPayload candidate ++
            [("change_reason", .text candidate.val.identity.val.changeReason.value),
             ("material_version", .text (toString candidate.val.identity.val.materialVersion)),
             ("evidence_version",
               .text (toString candidate.val.identity.val.evidenceVersion))] } }

/-- `_reconcile_existing_candidate`. -/
def reconcilePlan (existing : CandidatePersistenceRecord) (q : PersistRequest)
    (storageKey : String) (idempotencyRecord : IdempotencyRecord) :
    Except PyError MutationPlan := do
  let reconciliation ← reconcileCandidate existing.val.candidate q.candidate
    existing.val.evidenceHash
    (evidenceHashForSourceRefs q.candidate.val.evidencePacket.val.sourceRefs) q.occurredAtUtc
  if reconciliation.decision = .identityConflict then
    return .answer ⟨.identityConflict, some existing, none⟩
  else if reconciliation.decision = .duplicateCandidate then
    return .rebind ⟨.duplicateCandidate, some existing, none⟩ storageKey idempotencyRecord
      q.candidate.val.candidateId
  else
    match reconciliation.candidate with
    | none => throw (.runtimeError "candidate reconciliation returned no governed mutation")
    | some candidate =>
        reconciledPlan existing q reconciliation.decision candidate storageKey idempotencyRecord

def requireAuthoritativeScope (c : IdeaCandidate) : Except PyError ReviewAccessScope :=
  match c.val.accessScope with
  | none =>
      .error (.unscopedCandidatePersistence "candidate access scope is required for persistence")
  | some scope =>
      if scope.isAuthoritative then .ok scope
      else .error (.unscopedCandidatePersistence
        "candidate access scope must be authoritative for persistence")

def persistPlan (s : IdeaRepository) (q : PersistRequest) : Except PyError MutationPlan := do
  validate [requireText q.idempotencyKey "idempotency_key",
    requireText q.actorSubject "actor_subject"]
  let scope ← requireAuthoritativeScope q.candidate
  validate (requireAwareUtc q.occurredAtUtc "occurred_at_utc")
  match ← s.admission scope.val.tenantId q.idempotencyKey q.payload with
  | .answered result => return .answer result
  | .fresh storageKey idempotencyRecord =>
      match s.candidateRecords.get? q.candidate.val.candidateId with
      | some existing => reconcilePlan existing q storageKey idempotencyRecord
      | none => createPlan q storageKey idempotencyRecord

def persistCandidate (s : IdeaRepository) (q : PersistRequest) :
    Except PyError PersistenceResult × IdeaRepository :=
  s.runPlan (s.persistPlan q)

/-! ## Lifecycle transitions -/

/-- `_transition_record` without its write. -/
def transitionRecord (record : CandidatePersistenceRecord) (targetStatus : IdeaLifecycleStatus)
    (actorSubject : String) (occurredAtUtc : DateTime) (attributes : List (String × String)) :
    Except PyError (CandidatePersistenceRecord × AuditEvent) := do
  let candidate := record.val.candidate
  let transitioned ← transitionCandidate candidate targetStatus occurredAtUtc
  let entry ← Checked.make LifecycleHistoryEntryFields.checks
    { candidateId := candidate.val.candidateId
      sourceStatus := candidate.val.lifecycleStatus
      targetStatus := targetStatus
      actorSubject := actorSubject
      changedAtUtc := occurredAtUtc }
  let auditEvent ← AuditEvent.create
    { eventType := "idea.lifecycle.transitioned"
      actorSubject := actorSubject
      outcome := "accepted"
      occurredAtUtc := occurredAtUtc
      attributes :=
        [("source_status", candidate.val.lifecycleStatus.value),
         ("target_status", targetStatus.value)] ++ attributes }
  let updated ← CandidatePersistenceRecord.create
    { record.val with
      candidate := transitioned
      lifecycleHistory := record.val.lifecycleHistory ++ [entry]
      auditEvents := record.val.auditEvents ++ [auditEvent] }
  return (updated, auditEvent)

structure TransitionRequest where
  candidateId : String
  targetStatus : IdeaLifecycleStatus
  actorSubject : String
  occurredAtUtc : DateTime

/-- `transition_candidate` of the repository: no idempotency key and no event. -/
def transitionCandidate (s : IdeaRepository) (q : TransitionRequest) :
    Except PyError CandidatePersistenceRecord × IdeaRepository :=
  match validate ([requireText q.candidateId "candidate_id",
      requireText q.actorSubject "actor_subject"] ++
      requireAwareUtc q.occurredAtUtc "occurred_at_utc") with
  | .error raised => (.error raised, s)
  | .ok _ =>
      match s.candidateRecords.get? q.candidateId with
      | none => (.error (.keyError q.candidateId), s)
      | some record =>
          match transitionRecord record q.targetStatus q.actorSubject q.occurredAtUtc [] with
          | .error raised => (.error raised, s)
          | .ok (updated, _) =>
              (.ok updated,
                { s with
                  candidateRecords :=
                    s.candidateRecords.set record.val.candidate.val.candidateId updated })

structure LifecycleRequest extends MutationRequest, TransitionRequest where
  observedAtUtc : Option DateTime := none
  transitionId : Option String := none
  reasonCodes : List String := []

def lifecyclePlan (s : IdeaRepository) (q : LifecycleRequest) : Except PyError MutationPlan := do
  let observedTime := q.observedAtUtc.getD q.occurredAtUtc
  validate ([requireText q.candidateId "candidate_id",
    requireText q.idempotencyKey "idempotency_key", requireText q.actorSubject "actor_subject",
    requireOptionalText q.transitionId "transition_id"] ++
    requireAwareUtc q.occurredAtUtc "occurred_at_utc" ++
    requireAwareUtc observedTime "observed_at_utc")
  s.planForRecord q.candidateId q.idempotencyKey q.payload unscopedPersistence
    fun record storageKey idempotencyRecord => do
      let attributes :=
        [("idempotency_decision", IdempotencyDecision.accepted.value),
         ("observed_at_utc", observedTime.isoformat),
         ("reason_codes", String.intercalate "," q.reasonCodes)] ++
        q.transitionId.elim [] fun id => [("transition_id", id)]
      let (updated, auditEvent) ← transitionRecord record q.targetStatus q.actorSubject
        q.occurredAtUtc attributes
      return .accept
        { decision := .accepted
          candidateId := q.candidateId
          recordId := record.val.candidate.val.candidateId
          record := updated
          storageKey := storageKey
          idempotencyRecord := idempotencyRecord
          auditEvent := auditEvent
          event :=
            { eventType := "idea.lifecycle.transitioned.v1"
              aggregateId := q.candidateId
              occurredAtUtc := q.occurredAtUtc
              idempotencyKey := q.idempotencyKey
              eventLineage := q.eventLineage
              payload :=
                [("observed_at_utc", .text observedTime.isoformat),
                 ("source_status", .text record.val.candidate.val.lifecycleStatus.value),
                 ("target_status", .text q.targetStatus.value)] } }

def recordLifecycleTransition (s : IdeaRepository) (q : LifecycleRequest) :
    Except PyError PersistenceResult × IdeaRepository :=
  s.runPlan (s.lifecyclePlan q)

/-! ## Reviews and feedback -/

/-- The arguments of the mutations that record a result of the domain. -/
structure ResultRequest (α : Type) extends MutationRequest where
  result : α

/-- The answer for an identity that is stored already; `same` compares it with
the identity at hand. -/
def identityPlan (existing : Option (Bool × CandidatePersistenceRecord))
    (mismatch : PersistenceDecision) (storageKey : String) (idempotencyRecord : IdempotencyRecord) :
    Option MutationPlan :=
  existing.map fun (same, record) =>
    if same then
      .rebind ⟨.replayed, some record, none⟩ storageKey idempotencyRecord
        record.val.candidate.val.candidateId
    else .answer ⟨mismatch, some record, none⟩

/-- `_review_identity_result`. -/
def reviewIdentityPlan (s : IdeaRepository) (identity : ReviewMutationIdentity) :
    String → IdempotencyRecord → Option MutationPlan :=
  identityPlan
    ((s.reviewIdentityRecord identity).map fun (existing, record) =>
      (existing.equals identity, record))
    .identityConflict

/-- `conversion_outcome_identity_result`. -/
def outcomeIdentityPlan (s : IdeaRepository) (identity : ConversionOutcomeIdentity) :
    String → IdempotencyRecord → Option MutationPlan :=
  identityPlan
    ((s.conversionOutcomeIdentityRecord identity.conversionOutcomeId).map
      fun (existing, record) => (existing.equals identity, record))
    .outcomeConflict

/-- The accepted branch of `record_review_action`. -/
def reviewedPlan (q : ResultRequest ReviewActionResult) (record : CandidatePersistenceRecord)
    (storageKey : String) (idempotencyRecord : IdempotencyRecord) :
    Except PyError MutationPlan := do
  let decision := q.result.decision.val
  validate [(!record.val.candidate.equals q.result.sourceCandidate,
    invalidReviewAction record.val.candidate decision.action)]
  let history ← historyAfter record decision.candidateId q.result.candidate decision.actorSubject
    decision.acceptedAtUtc
  let updated ← CandidatePersistenceRecord.create
    { record.val with
      candidate := q.result.candidate
      lifecycleHistory := history
      auditEvents := record.val.auditEvents ++ [q.result.auditEvent]
      reviewDecisions := record.val.reviewDecisions ++ [q.result.decision] }
  return .accept
    { decision := .accepted
      candidateId := decision.candidateId
      record := updated
      storageKey := storageKey
      idempotencyRecord := idempotencyRecord
      auditEvent := q.result.auditEvent
      event :=
        { eventType := "idea.review.decision_recorded.v1"
          aggregateId := decision.candidateId
          occurredAtUtc := decision.acceptedAtUtc
          idempotencyKey := q.idempotencyKey
          eventLineage := q.eventLineage
          payload :=
            [("action", .text decision.action.value),
             ("reason_codes", .text (reasonCodesText decision.reasonCodes)),
             ("resulting_posture", .text decision.resultingPosture.value),
             ("candidate_material_version", .number decision.candidateMaterialVersion),
             ("candidate_evidence_version", .number decision.candidateEvidenceVersion),
             ("presentation_receipt_id",
               decision.presentationReceiptId.elim .absent .text),
             ("review_authority_policy_version", .text decision.reviewAuthorityPolicyVersion),
             ("review_authority_granted", .flag q.result.authorityGrant.isSome),
             ("observed_at_utc", .text decision.decidedAtUtc.isoformat)] } }

def reviewPlan (s : IdeaRepository) (q : ResultRequest ReviewActionResult) :
    Except PyError MutationPlan := do
  let candidateId := q.result.decision.val.candidateId
  validate [requireText q.idempotencyKey "idempotency_key", requireText candidateId "candidate_id"]
  s.planForRecord candidateId q.idempotencyKey q.payload unscopedReview
    fun record storageKey idempotencyRecord =>
      match s.reviewIdentityPlan (reviewMutationIdentityFromDecision q.result.decision) storageKey
          idempotencyRecord with
      | some plan => .ok plan
      | none => reviewedPlan q record storageKey idempotencyRecord

def recordReviewAction (s : IdeaRepository) (q : ResultRequest ReviewActionResult) :
    Except PyError PersistenceResult × IdeaRepository :=
  s.runPlan (s.reviewPlan q)

/-- The accepted branch of `record_feedback_event`. -/
def feedbackRecordedPlan (q : ResultRequest FeedbackResult) (record : CandidatePersistenceRecord)
    (storageKey : String) (idempotencyRecord : IdempotencyRecord) :
    Except PyError MutationPlan := do
  let event := q.result.feedbackEvent.val
  let updated ← CandidatePersistenceRecord.create
    { record.val with
      auditEvents := record.val.auditEvents ++ [q.result.auditEvent]
      feedbackEvents := record.val.feedbackEvents ++ [q.result.feedbackEvent] }
  return .accept
    { decision := .accepted
      candidateId := event.candidateId
      record := updated
      storageKey := storageKey
      idempotencyRecord := idempotencyRecord
      auditEvent := q.result.auditEvent
      event :=
        { eventType := "idea.feedback.recorded.v2"
          aggregateId := event.candidateId
          occurredAtUtc := event.acceptedAtUtc
          idempotencyKey := q.idempotencyKey
          eventLineage := q.eventLineage
          payload :=
            [("feedback_outcome", .text event.feedback.val.outcome.value),
             ("feedback_reason", .text event.feedback.val.reason.value),
             ("feedback_taxonomy_version", .text event.feedback.val.taxonomyVersion),
             ("actor_role", .text event.actorRole.value),
             ("observed_at_utc", .text event.feedback.val.recordedAtUtc.isoformat)] } }

def feedbackPlan (s : IdeaRepository) (q : ResultRequest FeedbackResult) :
    Except PyError MutationPlan := do
  let candidateId := q.result.feedbackEvent.val.candidateId
  validate [requireText q.idempotencyKey "idempotency_key", requireText candidateId "candidate_id"]
  s.planForRecord candidateId q.idempotencyKey q.payload unscopedReview
    fun record storageKey idempotencyRecord =>
      match s.reviewIdentityPlan (feedbackMutationIdentityFromEvent q.result.feedbackEvent)
          storageKey idempotencyRecord with
      | some plan => .ok plan
      | none => feedbackRecordedPlan q record storageKey idempotencyRecord

def recordFeedbackEvent (s : IdeaRepository) (q : ResultRequest FeedbackResult) :
    Except PyError PersistenceResult × IdeaRepository :=
  s.runPlan (s.feedbackPlan q)

/-! ## Conversions -/

/-- The accepted branch of `record_conversion_intent`. -/
def convertedPlan (q : ResultRequest ConversionIntentResult) (record : CandidatePersistenceRecord)
    (storageKey : String) (idempotencyRecord : IdempotencyRecord) :
    Except PyError MutationPlan := do
  let governed := q.result.conversionIntent.val
  let intent := governed.intent.val
  let refused (reason : String) := PyError.invalidConversionIntent intent.candidateId reason
  validate [(!record.val.candidate.equals q.result.sourceCandidate,
    refused "candidate state changed after conversion readiness evaluation")]
  match governed.reviewAuthorityGrant with
  | none => throw (refused "approved review authority changed before conversion persistence")
  | some grant =>
      let held ← grantIsHeld grant record.val.reviewDecisions
      validate [(!held, refused "approved review authority changed before conversion persistence")]
      let history ← historyAfter record intent.candidateId q.result.candidate
        governed.actorSubject governed.acceptedAtUtc
      let updated ← CandidatePersistenceRecord.create
        { record.val with
          candidate := q.result.candidate
          lifecycleHistory := history
          auditEvents := record.val.auditEvents ++ [q.result.auditEvent]
          conversionIntents := record.val.conversionIntents ++ [q.result.conversionIntent] }
      return .accept
        { decision := .accepted
          candidateId := intent.candidateId
          record := updated
          storageKey := storageKey
          idempotencyRecord := idempotencyRecord
          conversionIntentId := some intent.conversionIntentId
          auditEvent := q.result.auditEvent
          event :=
            { eventType := "idea.conversion.intent_requested.v1"
              aggregateId := intent.candidateId
              occurredAtUtc := governed.acceptedAtUtc
              idempotencyKey := q.idempotencyKey
              eventLineage := q.eventLineage
              payload :=
                [("target", .text intent.target.value),
                 ("target_source_authority", .text governed.targetSourceAuthority.value),
                 ("review_id", .text grant.val.reviewId),
                 ("observed_at_utc", .text intent.requestedAtUtc.isoformat)] } }

def conversionPlan (s : IdeaRepository) (q : ResultRequest ConversionIntentResult) :
    Except PyError MutationPlan := do
  let governed := q.result.conversionIntent.val
  let candidateId := governed.intent.val.candidateId
  validate
    [requireText q.idempotencyKey "idempotency_key",
     (governed.idempotencyKey != q.idempotencyKey,
       .valueError "conversion intent idempotency key must match repository idempotency key"),
     requireText candidateId "candidate_id"]
  s.planForRecord candidateId q.idempotencyKey q.payload unscopedPersistence (convertedPlan q)

def recordConversionIntent (s : IdeaRepository) (q : ResultRequest ConversionIntentResult) :
    Except PyError PersistenceResult × IdeaRepository :=
  s.runPlan (s.conversionPlan q)

/-- `_conversion_outcome_progression_conflicts`. -/
def progressionConflicts (record : CandidatePersistenceRecord)
    (outcome : GovernedConversionOutcome) : Bool :=
  let accepted := record.val.conversionOutcomes.filter fun existing =>
    existing.val.conversionIntentId = outcome.val.conversionIntentId
  (progressionViolation (accepted.map GovernedConversionOutcome.identity)
    (GovernedConversionOutcome.identity outcome)).isSome

/-- `_accept_conversion_outcome`. -/
def outcomeAcceptedPlan (q : ResultRequest ConversionOutcomeResult) (candidateId : String)
    (record : CandidatePersistenceRecord) (storageKey : String)
    (idempotencyRecord : IdempotencyRecord) : Except PyError MutationPlan := do
  let governed := q.result.conversionOutcome.val
  let updated ← CandidatePersistenceRecord.create
    { record.val with
      auditEvents := record.val.auditEvents ++ [q.result.auditEvent]
      conversionOutcomes := record.val.conversionOutcomes ++ [q.result.conversionOutcome] }
  return .accept
    { decision := .accepted
      candidateId := candidateId
      record := updated
      storageKey := storageKey
      idempotencyRecord := idempotencyRecord
      auditEvent := q.result.auditEvent
      event :=
        { eventType := "idea.conversion.outcome_recorded.v1"
          aggregateId := candidateId
          occurredAtUtc := governed.acceptedAtUtc
          idempotencyKey := q.idempotencyKey
          eventLineage := q.eventLineage
          payload :=
            [("source_system", .text governed.sourceSystem.value),
             ("source_event_version", .text (toString governed.sourceEventVersion)),
             ("status", .text governed.outcome.val.status.value),
             ("observed_at_utc", .text governed.outcome.val.recordedAtUtc.isoformat),
             ("supersedes_outcome",
               .text (if governed.supersedesConversionOutcomeId.isSome then "true" else "false")),
             ("target", .text governed.target.value)] } }

/-- The plan for an outcome whose intent belongs to the candidate. -/
def outcomeNextPlan (s : IdeaRepository) (q : ResultRequest ConversionOutcomeResult)
    (candidateId : String) (record : CandidatePersistenceRecord) (storageKey : String)
    (idempotencyRecord : IdempotencyRecord) : Except PyError MutationPlan :=
  match s.outcomeIdentityPlan (GovernedConversionOutcome.identity q.result.conversionOutcome)
      storageKey idempotencyRecord with
  | some plan => .ok plan
  | none =>
      if progressionConflicts record q.result.conversionOutcome then
        .ok (.answer ⟨.outcomeConflict, some record, none⟩)
      else outcomeAcceptedPlan q candidateId record storageKey idempotencyRecord

def outcomePlan (s : IdeaRepository) (q : ResultRequest ConversionOutcomeResult) :
    Except PyError MutationPlan := do
  let intentId := q.result.conversionOutcome.val.conversionIntentId
  validate [requireText q.idempotencyKey "idempotency_key",
    requireText intentId "conversion_intent_id"]
  match s.conversionIntentCandidates.get? intentId with
  | none => return .answer ⟨.notFound, none, none⟩
  | some candidateId =>
      s.planForRecord candidateId q.idempotencyKey q.payload unscopedPersistence
        (s.outcomeNextPlan q candidateId)

def recordConversionOutcome (s : IdeaRepository) (q : ResultRequest ConversionOutcomeResult) :
    Except PyError PersistenceResult × IdeaRepository :=
  s.runPlan (s.outcomePlan q)

/-! ## Report evidence packs -/

/-- The accepted branch of `record_report_evidence_pack`. -/
def packedPlan (q : ResultRequest ReportEvidencePackResult) (record : CandidatePersistenceRecord)
    (storageKey : String) (idempotencyRecord : IdempotencyRecord) :
    Except PyError MutationPlan := do
  let pack := q.result.evidencePack.val
  let updated ← CandidatePersistenceRecord.create
    { record.val with
      auditEvents := record.val.auditEvents ++ [q.result.auditEvent]
      reportEvidencePacks := record.val.reportEvidencePacks ++ [q.result.evidencePack] }
  return .accept
    { decision := .accepted
      candidateId := pack.candidateId
      record := updated
      storageKey := storageKey
      idempotencyRecord := idempotencyRecord
      reportEvidencePackId := some pack.reportEvidencePackId
      auditEvent := q.result.auditEvent
      event :=
        { eventType := "idea.report_evidence_pack.requested.v1"
          aggregateId := pack.candidateId
          occurredAtUtc := pack.requestedAtUtc
          idempotencyKey := q.idempotencyKey
          eventLineage := q.eventLineage
          payload :=
            [("purpose", .text pack.purpose.value),
             ("report_source_authority", .text pack.reportSourceAuthority.value),
             ("render_source_authority", .text pack.renderSourceAuthority.value),
             ("archive_source_authority", .text pack.archiveSourceAuthority.value)] } }

def packPlan (s : IdeaRepository) (q : ResultRequest ReportEvidencePackResult) :
    Except PyError MutationPlan := do
  let candidateId := q.result.evidencePack.val.candidateId
  validate [requireText q.idempotencyKey "idempotency_key", requireText candidateId "candidate_id"]
  s.planForRecord candidateId q.idempotencyKey q.payload unscopedPersistence (packedPlan q)

def recordReportEvidencePack (s : IdeaRepository) (q : ResultRequest ReportEvidencePackResult) :
    Except PyError PersistenceResult × IdeaRepository :=
  s.runPlan (s.packPlan q)

/-! ## Prechecks -/

/-- The keyword arguments of the prechecks. -/
structure PrecheckRequest (α : Type) where
  tenantId : String
  idempotencyKey : String
  payload : Json
  identity : α

/-- A precheck that can answer does what the mutation would do; else it leaves
the key to the mutation. -/
def precheck (s : IdeaRepository) {α : Type} (q : PrecheckRequest α)
    (seen : String → IdempotencyRecord → Option MutationPlan) :
    Except PyError (Option PersistenceResult) × IdeaRepository :=
  match validate [requireText q.idempotencyKey "idempotency_key"] with
  | .error raised => (.error raised, s)
  | .ok _ =>
      match s.admission q.tenantId q.idempotencyKey q.payload with
      | .error raised => (.error raised, s)
      | .ok (.answered result) => (.ok (some result), s)
      | .ok (.fresh storageKey idempotencyRecord) =>
          match seen storageKey idempotencyRecord with
          | none => (.ok none, s)
          | some plan =>
              let (answer, next) := s.commit plan
              (answer.map some, next)

def precheckReviewMutation (s : IdeaRepository) (q : PrecheckRequest ReviewMutationIdentity) :
    Except PyError (Option PersistenceResult) × IdeaRepository :=
  s.precheck q (s.reviewIdentityPlan q.identity)

def precheckConversionOutcomeMutation (s : IdeaRepository)
    (q : PrecheckRequest ConversionOutcomeIdentity) :
    Except PyError (Option PersistenceResult) × IdeaRepository :=
  s.precheck q (s.outcomeIdentityPlan q.identity)

/-- `record_outbox_delivery_run_request`, under a key of the system's own. -/
def recordOutboxDeliveryRunRequest (s : IdeaRepository) (idempotencyKey : String)
    (payload : Json) : Except PyError IdempotencyDecision × IdeaRepository :=
  match validate [requireText idempotencyKey "idempotency_key"] with
  | .error raised => (.error raised, s)
  | .ok _ =>
      let storageKey := "system:" ++ idempotencyKey
      match evaluateIdempotency idempotencyKey payload (s.idempotencyRecords.get? storageKey) with
      | (.accepted, idempotencyRecord) =>
          (.ok .accepted,
            { s with
              idempotencyRecords := s.idempotencyRecords.set storageKey idempotencyRecord })
      | (decision, _) => (.ok decision, s)

end IdeaRepository

end Mutations

end LotusIdea

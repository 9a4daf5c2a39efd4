import LotusIdea.Outbox.SystemLineage
import LotusIdea.Repository.IntentAuthority

/-!
# Error atomicity

A mutation raises before it writes, with one exception: the outbox event, whose
constructor wants a UTC time, is built after the candidate, the idempotency key
and the indexes are written.  The mutations that take their event time from a
domain result without asking for UTC can raise there.
-/

set_option autoImplicit false

namespace LotusIdea

open IdeaRepository (ResultRequest TransitionRequest)

section
variable [Sha256]

/-! ## When the event is built -/

theorem build_fails {e : CandidateEventRequest} (notUtc : e.occurredAtUtc.isUtc = false) :
    ∃ error, e.build = .error error := by
  have refused : firstFailure (requireAwareUtc e.occurredAtUtc "occurred_at_utc") ≠ none := by
    rw [Ne, firstFailure_requireAwareUtc, notUtc]
    decide
  obtain ⟨error, raised⟩ := Option.ne_none_iff_exists'.mp refused
  refine ⟨error, ?_⟩
  simp only [CandidateEventRequest.build, buildCandidateOutboxEvent]
  exact Except.seq_raises.mpr (Or.inl (validate_eq_error.mpr raised))

theorem outboxFingerprint_returns {key : String} (filled : PyText.isBlank key = false) :
    outboxFingerprint key = .ok ("sha256:" ++ Sha256.hexdigest 64 key) := by
  simp only [outboxFingerprint]
  refine Except.seq_returns.mpr ⟨(), validate_eq_ok.mpr ?_, rfl⟩
  simp [filled]

theorem chosenLineage_returns (hex : Sha256.HexText) (sized : Sha256.Sized)
    (lineage : Option EventLineageContext) (eventId : String) :
    ∃ chosen, chosenLineage lineage eventId = .ok chosen := by
  cases lineage with
  | some given => exact ⟨given, rfl⟩
  | none => exact systemEventLineage_returns hex sized eventId

omit [Sha256] in
theorem supported_not_blank {eventType : String} (supported : eventType ∈ supportedOutboxEventTypes) :
    PyText.isBlank eventType = false := by
  have all : supportedOutboxEventTypes.all (fun t => !PyText.isBlank t) = true := by decide +kernel
  simpa using List.all_eq_true.mp all eventType supported

theorem candidateEventFields_valid {eventType aggregateId : String} {occurredAtUtc : DateTime}
    {payload : List (String × PayloadValue)} {fingerprint : Option String}
    (lineage : EventLineageContext) (supported : eventType ∈ supportedOutboxEventTypes)
    (named : PyText.isBlank aggregateId = false) (utc : occurredAtUtc.isUtc = true)
    (safe : ∀ key ∈ payload.map Prod.fst, key ∉ forbiddenOutboxPayloadKeys) :
    firstFailure (candidateEventFields eventType aggregateId occurredAtUtc payload fingerprint
      lineage).checks = none := by
  refine OutboxEventFields.checks_pass.mpr ⟨?_, lineage.valid, ?_, ?_, ?_, ?_⟩
  · have eventId : PyText.isBlank (outboxEventId eventType aggregateId occurredAtUtc fingerprint) =
        false := PyText.isBlank_append_of_left _ (by decide)
    have aggregateType : PyText.isBlank outboxEventAggregateType = false := by decide
    have schemaVersion : PyText.isBlank outboxEventSchemaVersion = false := by decide
    simp [OutboxEventFields.identityChecks, candidateEventFields, eventId, named,
      supported_not_blank supported, aggregateType, schemaVersion, supported, utc]
  · simp [OutboxEventFields.timeChecks_pass, candidateEventFields]
  · simp [OutboxEventFields.leaseChecks, candidateEventFields]
  · simp [OutboxEventFields.statusChecks, candidateEventFields]
  · have none_ : (candidateEventFields eventType aggregateId occurredAtUtc payload fingerprint
        lineage).leakedKeys = [] := by
      rw [OutboxEventFields.leakedKeys, List.filter_eq_nil_iff]
      intro key forbidden leaked
      exact safe key (by simpa [candidateEventFields] using leaked) forbidden
    simp [OutboxEventFields.payloadChecks, none_]

/-- The event of an accepted mutation is built when its time is UTC and it has a
lineage. -/
theorem EventOf.builds {c : MutationCall} {m : AcceptedMutation} (event : EventOf c m)
    (utc : c.eventTime.isUtc = true) (named : PyText.isBlank m.candidateId = false)
    (filled : PyText.isBlank c.request.idempotencyKey = false)
    (chooses : ∀ eventId, ∃ chosen, chosenLineage c.request.eventLineage eventId = .ok chosen) :
    ∃ record, m.event.build = .ok record := by
  have time : m.event.occurredAtUtc.isUtc = true := by rw [event.occurredAtUtc, utc]
  have key : PyText.isBlank m.event.idempotencyKey = false := by rw [event.idempotencyKey, filled]
  have aggregate : PyText.isBlank m.event.aggregateId = false := by rw [event.aggregateId, named]
  obtain ⟨lineage, chosen⟩ := chooses
    (outboxEventId m.event.eventType m.event.aggregateId m.event.occurredAtUtc
      (some ("sha256:" ++ Sha256.hexdigest 64 m.event.idempotencyKey)))
  rw [← event.eventLineage] at chosen
  obtain ⟨record, made, _⟩ := create_of_valid
    (candidateEventFields_valid lineage event.eventType aggregate time event.payload)
  refine ⟨record, ?_⟩
  simp only [CandidateEventRequest.build, buildCandidateOutboxEvent]
  refine Except.seq_returns.mpr ⟨(), validate_eq_ok.mpr ?_, ?_⟩
  · simp [time]
  refine Except.seq_returns.mpr ⟨_, outboxFingerprint_returns key, ?_⟩
  exact Except.seq_returns.mpr ⟨lineage, chosen, made⟩

/-! ## Records have names -/

/-- No record stands under a blank id. -/
def KeysNamed (s : IdeaRepository) : Prop :=
  ∀ id record, s.candidateRecords.get? id = some record → PyText.isBlank id = false

omit [Sha256] in
theorem candidateId_not_blank (candidate : IdeaCandidate) :
    PyText.isBlank candidate.val.candidateId = false := by
  have valid := candidate.valid
  simp only [IdeaCandidateFields.checks, firstFailure_cons, requireText_passes] at valid
  exact valid.1

theorem keysNamed_set {s : IdeaRepository} (named : KeysNamed s) {key : String}
    (filled : PyText.isBlank key = false) (record : CandidatePersistenceRecord) :
    ∀ id found, (s.candidateRecords.set key record).get? id = some found →
      PyText.isBlank id = false := by
  intro id found stored
  by_cases here : id = key
  · rw [here]
    exact filled
  · rw [Dict.get?_set_of_ne record here] at stored
    exact named id found stored

theorem Accepted.candidateId_not_blank {s : IdeaRepository} (named : KeysNamed s)
    {c : MutationCall} {m : AcceptedMutation} (accepted : Accepted s c m) :
    PyText.isBlank m.candidateId = false := by
  rcases accepted.candidateId with filled | present
  · exact filled
  · obtain ⟨record, stored⟩ := Option.isSome_iff_exists.mp present
    exact named _ record stored

theorem Accepted.recordId_not_blank {s : IdeaRepository} (named : KeysNamed s)
    {c : MutationCall} {m : AcceptedMutation} (accepted : Accepted s c m) :
    PyText.isBlank m.recordId = false := by
  rcases accepted.recordId with same | ⟨old, _, own⟩
  · rw [same]
    exact accepted.candidateId_not_blank named
  · rw [own]
    exact LotusIdea.candidateId_not_blank _

theorem step_keysNamed {s : IdeaRepository} (named : KeysNamed s) (c : RepositoryCall) :
    KeysNamed (s.step c) := by
  cases c with
  | mutate c =>
      rw [IdeaRepository.step]
      cases effect : s.mutate c with
      | mk answer next =>
          have cases_ := mutate_effect s c
          rw [effect] at cases_
          cases cases_ with
          | refused error _ => exact named
          | answered result _ => exact named
          | bound result _ _ _ _ => exact named
          | cut m _ accepted error _ =>
              exact keysNamed_set named (accepted.recordId_not_blank named) m.record
          | written m _ accepted event _ =>
              exact keysNamed_set named (accepted.recordId_not_blank named) m.record
  | transition q =>
      simp only [IdeaRepository.step, IdeaRepository.transitionCandidate]
      split
      · exact named
      split
      · exact named
      split
      · exact named
      · exact keysNamed_set named (LotusIdea.candidateId_not_blank _) _
  | precheckReview q =>
      have bound : KeyBound s (s.precheckReviewMutation q).2 := precheck_keyBound s q
      intro id record stored
      rw [IdeaRepository.step, bound.candidateRecords] at stored
      exact named id record stored
  | precheckOutcome q =>
      have bound : KeyBound s (s.precheckConversionOutcomeMutation q).2 := precheck_keyBound s q
      intro id record stored
      rw [IdeaRepository.step, bound.candidateRecords] at stored
      exact named id record stored
  | requestDeliveryRun key payload =>
      intro id record stored
      rw [IdeaRepository.step, deliveryRun_records] at stored
      exact named id record stored
  | deliver c => exact named
  | recordLineage q =>
      intro id record stored
      obtain ⟨old, before⟩ := (lineage_writes s q).present stored
      exact named id old before
  | recordLineageRequest q key payload =>
      intro id record stored
      obtain ⟨old, before⟩ := (lineageRequest_writes s q key payload).present stored
      exact named id old before
  | recordPresentation receipt =>
      obtain ⟨receipts, same⟩ := presentation_frame s receipt
      rw [IdeaRepository.step, same]
      exact named

theorem run_keysNamed (calls : List RepositoryCall) :
    KeysNamed (IdeaRepository.empty.run calls) :=
  Runs.invariant IdeaRepository.step (fun _ => True) KeysNamed
    (fun _ c _ named => step_keysNamed named c)
    (fun id record stored => by simp [IdeaRepository.empty] at stored) fun _ _ => trivial

/-! ## Which calls reach their writes -/

/-- The candidate is stored and its tenant has not used the key. -/
structure NewKey (s : IdeaRepository) (candidateId idempotencyKey : String)
    (record : CandidatePersistenceRecord) : Prop where
  filled : PyText.isBlank idempotencyKey = false
  stored : s.candidateRecords.get? candidateId = some record
  unseen : ∃ scope, record.val.candidate.val.accessScope = some scope ∧
    s.idempotencyRecords.get? (tenantStorageKey scope.val.tenantId idempotencyKey) = none

/-- What the request and the state say of a call that gets to its writes.  A
persisted candidate and a lifecycle transition never do with a time that is not
UTC, since they ask for UTC first; a review or a conversion that moves the
lifecycle status builds a history entry, which asks for UTC as well. -/
def ReachesWrites (s : IdeaRepository) : MutationCall → Prop
  | .persistCandidate _ => False
  | .recordLifecycleTransition _ => False
  | .recordReviewAction q =>
      ∃ record, NewKey s q.result.decision.val.candidateId q.idempotencyKey record ∧
        s.reviewIdentityRecord (reviewMutationIdentityFromDecision q.result.decision) = none ∧
        record.val.candidate.equals q.result.sourceCandidate = true ∧
        record.val.candidate.val.lifecycleStatus = q.result.candidate.val.lifecycleStatus
  | .recordFeedbackEvent q =>
      ∃ record, NewKey s q.result.feedbackEvent.val.candidateId q.idempotencyKey record ∧
        s.reviewIdentityRecord (feedbackMutationIdentityFromEvent q.result.feedbackEvent) = none
  | .recordConversionIntent q =>
      q.result.conversionIntent.val.idempotencyKey = q.idempotencyKey ∧
      ∃ record, NewKey s q.result.conversionIntent.val.intent.val.candidateId q.idempotencyKey
          record ∧
        record.val.candidate.equals q.result.sourceCandidate = true ∧
        (∃ grant, q.result.conversionIntent.val.reviewAuthorityGrant = some grant ∧
          grantIsHeld grant record.val.reviewDecisions = .ok true) ∧
        record.val.candidate.val.lifecycleStatus = q.result.candidate.val.lifecycleStatus
  | .recordConversionOutcome q =>
      PyText.isBlank q.result.conversionOutcome.val.conversionIntentId = false ∧
      ∃ candidateId, s.conversionIntentCandidates.get?
          q.result.conversionOutcome.val.conversionIntentId = some candidateId ∧
        ∃ record, NewKey s candidateId q.idempotencyKey record ∧
          s.conversionOutcomeIdentityRecord
            q.result.conversionOutcome.val.outcome.val.conversionOutcomeId = none ∧
          IdeaRepository.progressionConflicts record q.result.conversionOutcome = false
  | .recordReportEvidencePack q =>
      ∃ record, NewKey s q.result.evidencePack.val.candidateId q.idempotencyKey record

/-- The plan is to write. -/
def Accepts (plan : Except PyError MutationPlan) : Prop := ∃ m, plan = .ok (.accept m)

omit [Sha256] in
theorem accepts_ok {m : AcceptedMutation} : Accepts (.ok (.accept m)) := ⟨m, rfl⟩

omit [Sha256] in
theorem accepts_seq {α : Type} {first : Except PyError α} {next : α → Except PyError MutationPlan} :
    Accepts (first >>= next) ↔ ∃ a, first = .ok a ∧ Accepts (next a) := by
  constructor
  · rintro ⟨m, run⟩
    obtain ⟨a, began, run⟩ := Except.seq_returns.mp run
    exact ⟨a, began, m, run⟩
  · rintro ⟨a, began, m, run⟩
    exact ⟨m, Except.seq_returns.mpr ⟨a, began, run⟩⟩

omit [Sha256] in
theorem accepts_validated {checks : List (Bool × PyError)} {next : Except PyError MutationPlan} :
    Accepts (validate checks >>= fun _ => next) ↔ firstFailure checks = none ∧ Accepts next := by
  rw [accepts_seq]
  constructor
  · rintro ⟨_, passed, accepts⟩
    exact ⟨validate_eq_ok.mp passed, accepts⟩
  · rintro ⟨passed, accepts⟩
    exact ⟨(), validate_eq_ok.mpr passed, accepts⟩

omit [Sha256] in
theorem tenantId_not_blank (scope : ReviewAccessScope) : PyText.isBlank scope.val.tenantId = false := by
  have valid := scope.valid
  simp only [ReviewAccessScopeFields.checks, firstFailure_cons, requireText_passes] at valid
  exact valid.1

theorem admit_unseen {s : IdeaRepository} {scope : ReviewAccessScope} {idempotencyKey : String}
    (payload : Json) (filled : PyText.isBlank idempotencyKey = false)
    (unseen : s.idempotencyRecords.get? (tenantStorageKey scope.val.tenantId idempotencyKey) =
      none) :
    s.admission scope.val.tenantId idempotencyKey payload =
      .ok (.fresh (tenantStorageKey scope.val.tenantId idempotencyKey)
        ⟨idempotencyKey, idempotencyPayloadHash payload⟩) := by
  have identity : tenantScopedIdempotencyIdentity scope.val.tenantId idempotencyKey =
      .ok (tenantStorageKey scope.val.tenantId idempotencyKey) := by
    simp only [tenantScopedIdempotencyIdentity]
    refine Except.seq_returns.mpr ⟨(), validate_eq_ok.mpr ?_, rfl⟩
    simp [tenantId_not_blank scope, filled]
  simp only [IdeaRepository.admission]
  refine Except.seq_returns.mpr ⟨_, identity, ?_⟩
  rw [unseen]
  rfl

/-- A mutation of a stored candidate accepts when its key is new and what comes
after accepts, which looks at the record only. -/
theorem accepts_forRecord {s : IdeaRepository} {candidateId idempotencyKey : String}
    {payload : Json} {unscoped : PyError}
    {next : CandidatePersistenceRecord → String → IdempotencyRecord → Except PyError MutationPlan}
    {Admits : CandidatePersistenceRecord → Prop}
    (reads : ∀ record storageKey idempotencyRecord,
      Accepts (next record storageKey idempotencyRecord) ↔ Admits record) :
    Accepts (s.planForRecord candidateId idempotencyKey payload unscoped next) ↔
      ∃ record, NewKey s candidateId idempotencyKey record ∧ Admits record := by
  constructor
  · rintro ⟨m, run⟩
    rcases planForRecord_returns run with
      ⟨_, told, _⟩ | ⟨record, scope, storageKey, ir, stored, tenant, fresh, run⟩
    · cases told
    · have unseen := fresh.unseen
      rw [fresh.shape] at unseen
      exact ⟨record, ⟨fresh.filled, stored, scope, tenant, unseen⟩,
        (reads record storageKey ir).mp ⟨m, run⟩⟩
  · rintro ⟨record, ⟨filled, stored, scope, tenant, unseen⟩, admits⟩
    simp only [IdeaRepository.planForRecord, stored, tenant]
    refine accepts_seq.mpr ⟨_, admit_unseen payload filled unseen, ?_⟩
    exact (reads record _ _).mpr admits

omit [Sha256] in
/-- With a time that is not UTC, only an unmoved status leaves the history alone. -/
theorem historyAfter_notUtc {record : CandidatePersistenceRecord} {candidateId : String}
    {candidate : IdeaCandidate} {actorSubject : String} {changedAtUtc : DateTime}
    (notUtc : changedAtUtc.isUtc = false) :
    (∃ history, historyAfter record candidateId candidate actorSubject changedAtUtc = .ok history) ↔
      record.val.candidate.val.lifecycleStatus = candidate.val.lifecycleStatus := by
  constructor
  · rintro ⟨history, run⟩
    by_contra moved
    simp only [historyAfter, if_neg moved] at run
    obtain ⟨entry, made, _⟩ := Except.seq_returns.mp run
    have valid := entry.valid
    rw [Checked.make_eq_ok.mp made] at valid
    simp only [LifecycleHistoryEntryFields.checks, firstFailure_append,
      firstFailure_requireAwareUtc, notUtc] at valid
    exact absurd valid.2 (by decide)
  · intro same
    exact ⟨_, by simp only [historyAfter, if_pos same]; rfl⟩

/-! ### The mutations one by one -/

omit [Sha256] in
/-- Replacing the record's candidate, histories and results never fails. -/
theorem accepts_updated {record : CandidatePersistenceRecord}
    {fields : CandidatePersistenceRecordFields}
    {next : CandidatePersistenceRecord → Except PyError MutationPlan}
    (evidenceHash : fields.evidenceHash = record.val.evidenceHash)
    (persistedAtUtc : fields.persistedAtUtc = record.val.persistedAtUtc)
    (accepts : ∀ updated, Accepts (next updated)) :
    Accepts (CandidatePersistenceRecord.create fields >>= next) := by
  obtain ⟨updated, made⟩ := record.create_of_kept evidenceHash persistedAtUtc
  exact accepts_seq.mpr ⟨updated, made, accepts updated⟩

omit [Sha256] in
theorem accepts_packed (q : ResultRequest ReportEvidencePackResult)
    (record : CandidatePersistenceRecord) (storageKey : String)
    (idempotencyRecord : IdempotencyRecord) :
    Accepts (IdeaRepository.packedPlan q record storageKey idempotencyRecord) ↔ True := by
  refine iff_true_intro ?_
  simp only [IdeaRepository.packedPlan]
  exact accepts_updated rfl rfl fun _ => accepts_ok

omit [Sha256] in
/-- An identity seen before is answered, not written. -/
theorem identityPlan_answers (existing : Option (Bool × CandidatePersistenceRecord))
    {mismatch : PersistenceDecision} {storageKey : String} {idempotencyRecord : IdempotencyRecord}
    {plan : MutationPlan}
    (seen : IdeaRepository.identityPlan existing mismatch storageKey idempotencyRecord =
      some plan) : ¬ Accepts (.ok plan) := by
  rintro ⟨m, answer⟩
  cases answer
  unfold IdeaRepository.identityPlan at seen
  obtain ⟨⟨same, record⟩, _, made⟩ := Option.map_eq_some_iff.mp seen
  cases same <;> cases made

omit [Sha256] in
/-- A mutation with an identity goes on when the identity is new. -/
theorem accepts_unlessSeen {α : Type}
    {existing : Option (α × CandidatePersistenceRecord)}
    {compare : α × CandidatePersistenceRecord → Bool × CandidatePersistenceRecord}
    {mismatch : PersistenceDecision} {storageKey : String} {idempotencyRecord : IdempotencyRecord}
    {next : Except PyError MutationPlan} {Admits : Prop} (reads : Accepts next ↔ Admits) :
    Accepts (match IdeaRepository.identityPlan (existing.map compare) mismatch storageKey
        idempotencyRecord with
      | some plan => .ok plan
      | none => next) ↔ existing = none ∧ Admits := by
  cases existing with
  | none =>
      refine reads.trans ?_
      simp
  | some found =>
      refine iff_of_false ?_ (by simp)
      exact identityPlan_answers (some (compare found)) rfl

theorem accepts_feedback (s : IdeaRepository) (q : ResultRequest FeedbackResult)
    (record : CandidatePersistenceRecord) (storageKey : String)
    (idempotencyRecord : IdempotencyRecord) :
    Accepts (match s.reviewIdentityPlan (feedbackMutationIdentityFromEvent q.result.feedbackEvent)
        storageKey idempotencyRecord with
      | some plan => .ok plan
      | none => IdeaRepository.feedbackRecordedPlan q record storageKey idempotencyRecord) ↔
      s.reviewIdentityRecord (feedbackMutationIdentityFromEvent q.result.feedbackEvent) = none := by
  have writes : Accepts (IdeaRepository.feedbackRecordedPlan q record storageKey
      idempotencyRecord) := by
    simp only [IdeaRepository.feedbackRecordedPlan]
    exact accepts_updated rfl rfl fun _ => accepts_ok
  refine (accepts_unlessSeen (iff_true_intro writes)).trans ?_
  rw [and_true]

theorem accepts_outcome (s : IdeaRepository) (q : ResultRequest ConversionOutcomeResult)
    (candidateId : String) (record : CandidatePersistenceRecord) (storageKey : String)
    (idempotencyRecord : IdempotencyRecord) :
    Accepts (s.outcomeNextPlan q candidateId record storageKey idempotencyRecord) ↔
      s.conversionOutcomeIdentityRecord
        q.result.conversionOutcome.val.outcome.val.conversionOutcomeId = none ∧
      IdeaRepository.progressionConflicts record q.result.conversionOutcome = false := by
  refine accepts_unlessSeen ?_
  cases conflicts : IdeaRepository.progressionConflicts record q.result.conversionOutcome with
  | true =>
      refine iff_of_false ?_ (by decide)
      rintro ⟨m, run⟩
      cases run
  | false =>
      refine iff_of_true ?_ rfl
      simp only [IdeaRepository.outcomeAcceptedPlan]
      exact accepts_updated rfl rfl fun _ => accepts_ok

theorem accepts_review (s : IdeaRepository) (q : ResultRequest ReviewActionResult)
    (notUtc : q.result.decision.val.acceptedAtUtc.isUtc = false)
    (record : CandidatePersistenceRecord) (storageKey : String)
    (idempotencyRecord : IdempotencyRecord) :
    Accepts (match s.reviewIdentityPlan (reviewMutationIdentityFromDecision q.result.decision)
        storageKey idempotencyRecord with
      | some plan => .ok plan
      | none => IdeaRepository.reviewedPlan q record storageKey idempotencyRecord) ↔
      s.reviewIdentityRecord (reviewMutationIdentityFromDecision q.result.decision) = none ∧
      record.val.candidate.equals q.result.sourceCandidate = true ∧
      record.val.candidate.val.lifecycleStatus = q.result.candidate.val.lifecycleStatus := by
  refine accepts_unlessSeen ?_
  simp only [IdeaRepository.reviewedPlan]
  rw [accepts_validated, accepts_seq]
  refine and_congr (by simp) ?_
  rw [← historyAfter_notUtc notUtc]
  constructor
  · rintro ⟨history, run, _⟩
    exact ⟨history, run⟩
  · rintro ⟨history, run⟩
    exact ⟨history, run, accepts_updated rfl rfl fun _ => accepts_ok⟩

omit [Sha256] in
theorem accepts_converted (q : ResultRequest ConversionIntentResult)
    (notUtc : q.result.conversionIntent.val.acceptedAtUtc.isUtc = false)
    (record : CandidatePersistenceRecord) (storageKey : String)
    (idempotencyRecord : IdempotencyRecord) :
    Accepts (IdeaRepository.convertedPlan q record storageKey idempotencyRecord) ↔
      record.val.candidate.equals q.result.sourceCandidate = true ∧
      (∃ grant, q.result.conversionIntent.val.reviewAuthorityGrant = some grant ∧
        grantIsHeld grant record.val.reviewDecisions = .ok true) ∧
      record.val.candidate.val.lifecycleStatus = q.result.candidate.val.lifecycleStatus := by
  simp only [IdeaRepository.convertedPlan]
  rw [accepts_validated]
  refine and_congr (by simp) ?_
  cases carried : q.result.conversionIntent.val.reviewAuthorityGrant with
  | none =>
      refine iff_of_false ?_ ?_
      · rintro ⟨m, run⟩
        cases run
      · rintro ⟨⟨grant, none_, _⟩, _⟩
        cases none_
  | some grant =>
      constructor
      · intro accepts
        obtain ⟨held, found, accepts⟩ := accepts_seq.mp accepts
        obtain ⟨passed, accepts⟩ := accepts_validated.mp accepts
        obtain ⟨history, kept, _⟩ := accepts_seq.mp accepts
        have isHeld : held = true := by simpa using passed
        rw [isHeld] at found
        exact ⟨⟨grant, rfl, found⟩, (historyAfter_notUtc notUtc).mp ⟨history, kept⟩⟩
      · rintro ⟨⟨given, same, held⟩, unmoved⟩
        cases same
        have kept : ∃ history, historyAfter record q.result.conversionIntent.val.intent.val.candidateId
            q.result.candidate q.result.conversionIntent.val.actorSubject
            q.result.conversionIntent.val.acceptedAtUtc = .ok history :=
          (historyAfter_notUtc notUtc).mpr unmoved
        obtain ⟨history, kept⟩ := kept
        refine accepts_seq.mpr ⟨true, held, accepts_validated.mpr ⟨by simp, ?_⟩⟩
        exact accepts_seq.mpr ⟨history, kept, accepts_updated rfl rfl fun _ => accepts_ok⟩

/-- The checks in front pass for a key and a candidate id that are not blank. -/
theorem accepts_named {s : IdeaRepository} {candidateId idempotencyKey : String}
    {next : Except PyError MutationPlan} {Admits : CandidatePersistenceRecord → Prop}
    (named : PyText.isBlank candidateId = false)
    (reads : Accepts next ↔ ∃ record, NewKey s candidateId idempotencyKey record ∧ Admits record) :
    Accepts (validate [requireText idempotencyKey "idempotency_key",
        requireText candidateId "candidate_id"] >>= fun _ => next) ↔
      ∃ record, NewKey s candidateId idempotencyKey record ∧ Admits record := by
  rw [accepts_validated, reads]
  refine and_iff_right_of_imp ?_
  rintro ⟨record, new, _⟩
  simp [new.filled, named]

theorem accepts_conversion (s : IdeaRepository) (q : ResultRequest ConversionIntentResult)
    (notUtc : q.result.conversionIntent.val.acceptedAtUtc.isUtc = false) :
    Accepts (s.conversionPlan q) ↔ ReachesWrites s (.recordConversionIntent q) := by
  have named : PyText.isBlank q.result.conversionIntent.val.intent.val.candidateId = false := by
    have valid := q.result.conversionIntent.val.intent.valid
    simp only [IdeaConversionIntentFields.checks, firstFailure_cons, requireText_passes] at valid
    exact valid.2.1
  simp only [IdeaRepository.conversionPlan]
  rw [accepts_validated, accepts_forRecord fun record storageKey idempotencyRecord =>
    accepts_converted q notUtc record storageKey idempotencyRecord]
  constructor
  · rintro ⟨passed, reached⟩
    refine ⟨?_, reached⟩
    simp only [firstFailure_cons, bne_eq_false_iff_eq] at passed
    exact passed.2.1
  · rintro ⟨own, record, new, reached⟩
    exact ⟨by simp [new.filled, named, own], record, new, reached⟩

theorem accepts_recordOutcome (s : IdeaRepository) (q : ResultRequest ConversionOutcomeResult) :
    Accepts (s.outcomePlan q) ↔ ReachesWrites s (.recordConversionOutcome q) := by
  simp only [IdeaRepository.outcomePlan]
  rw [accepts_validated]
  cases found : s.conversionIntentCandidates.get?
      q.result.conversionOutcome.val.conversionIntentId with
  | none =>
      refine iff_of_false ?_ ?_
      · rintro ⟨_, m, run⟩
        cases run
      · rintro ⟨_, candidateId, none_, _⟩
        rw [found] at none_
        cases none_
  | some candidateId =>
      simp only [accepts_forRecord fun record storageKey idempotencyRecord =>
        accepts_outcome s q candidateId record storageKey idempotencyRecord]
      constructor
      · rintro ⟨passed, reached⟩
        simp only [firstFailure_cons, requireText_passes] at passed
        exact ⟨passed.2.1, candidateId, found, reached⟩
      · rintro ⟨filled, other, own, record, new, reached⟩
        rw [found] at own
        cases own
        exact ⟨by simp [new.filled, filled], record, new, reached⟩

/-- Whether a call with a time that is not UTC gets to its writes is read off the
request and the state. -/
theorem plan_accepts {s : IdeaRepository} {c : MutationCall} (notUtc : c.eventTime.isUtc = false) :
    Accepts (c.plan s) ↔ ReachesWrites s c := by
  cases c with
  | persistCandidate q =>
      refine iff_of_false ?_ id
      intro accepts
      simp only [MutationCall.plan, IdeaRepository.persistPlan] at accepts
      obtain ⟨_, accepts⟩ := accepts_validated.mp accepts
      obtain ⟨_, _, accepts⟩ := accepts_seq.mp accepts
      obtain ⟨utc, _⟩ := accepts_validated.mp accepts
      rw [firstFailure_requireAwareUtc] at utc
      exact absurd (utc.symm.trans notUtc) (by decide)
  | recordLifecycleTransition q =>
      refine iff_of_false ?_ id
      intro accepts
      simp only [MutationCall.plan, IdeaRepository.lifecyclePlan] at accepts
      obtain ⟨utc, _⟩ := accepts_validated.mp accepts
      simp only [firstFailure_append, firstFailure_requireAwareUtc] at utc
      exact absurd (utc.1.2.symm.trans notUtc) (by decide)
  | recordReviewAction q =>
      have named : PyText.isBlank q.result.decision.val.candidateId = false := by
        have valid := q.result.decision.candidateEvidence.valid
        simp only [CandidateEvidenceIdentityFields.checks, firstFailure_cons, requireText_passes]
          at valid
        exact valid.1
      exact accepts_named named (accepts_forRecord fun record storageKey idempotencyRecord =>
        accepts_review s q notUtc record storageKey idempotencyRecord)
  | recordFeedbackEvent q =>
      have named : PyText.isBlank q.result.feedbackEvent.val.candidateId = false := by
        have valid := q.result.feedbackEvent.valid
        simp only [GovernedFeedbackEventFields.checks, firstFailure_cons, requireText_passes]
          at valid
        exact valid.1
      exact accepts_named named (accepts_forRecord fun record storageKey idempotencyRecord =>
        accepts_feedback s q record storageKey idempotencyRecord)
  | recordConversionIntent q => exact accepts_conversion s q notUtc
  | recordConversionOutcome q => exact accepts_recordOutcome s q
  | recordReportEvidencePack q =>
      have named : PyText.isBlank q.result.evidencePack.val.candidateId = false := by
        have valid := q.result.evidencePack.valid
        simp only [GovernedReportEvidencePackFields.checks, firstFailure_cons, requireText_passes]
          at valid
        exact valid.2.2.1
      refine (accepts_named named (accepts_forRecord fun record storageKey idempotencyRecord =>
        accepts_packed q record storageKey idempotencyRecord)).trans ?_
      simp [ReachesWrites]

/-! ## Atomic calls -/

/-- A call that raises leaves the repository as it was. -/
def Atomic (s : IdeaRepository) (c : MutationCall) : Prop :=
  ∀ error, (s.mutate c).1 = .error error → (s.mutate c).2 = s

theorem Accepted.write_ne {s : IdeaRepository} {c : MutationCall} {m : AcceptedMutation}
    (accepted : Accepted s c m) : s.write m ≠ s := by
  intro same
  have bound : (s.write m).idempotencyRecords.get? m.storageKey = some m.idempotencyRecord := by
    simp [IdeaRepository.write, IdeaRepository.bindIdempotency]
  rw [same, accepted.unseen] at bound
  cases bound

/-- The transition that appends no event raises before its write. -/
theorem transition_atomic {s : IdeaRepository} {q : TransitionRequest} {error : PyError}
    (raised : (s.transitionCandidate q).1 = .error error) : (s.transitionCandidate q).2 = s := by
  unfold IdeaRepository.transitionCandidate at raised ⊢
  split
  · rfl
  split
  · rfl
  split
  · rfl
  · rename_i passed _ record stored _ updated auditEvent moved
    simp only [passed, stored, moved] at raised
    cases raised

/-- A mutation that raises has written nothing, exactly when its event time is
UTC or it does not get to its writes. -/
theorem atomic_iff (hex : Sha256.HexText) (sized : Sha256.Sized) {s : IdeaRepository}
    (named : KeysNamed s) (c : MutationCall) :
    Atomic s c ↔ c.eventTime.isUtc = true ∨ ¬ ReachesWrites s c := by
  constructor
  · intro atomic
    by_contra reaches
    obtain ⟨notUtc, reaches⟩ : c.eventTime.isUtc = false ∧ ReachesWrites s c := by
      simpa using reaches
    obtain ⟨m, planned⟩ := (plan_accepts notUtc).mpr reaches
    have accepted : Accepted s c m := plan_sound planned
    obtain ⟨error, unbuilt⟩ := build_fails (e := m.event) (by rw [accepted.event.occurredAtUtc, notUtc])
    have run : s.mutate c = (.error error, s.write m) := by
      simp only [IdeaRepository.mutate, IdeaRepository.runPlan, planned, IdeaRepository.commit,
        unbuilt]
    refine accepted.write_ne ?_
    have kept := atomic error (by rw [run])
    rw [run] at kept
    exact kept
  · intro condition error raised
    cases effect : s.mutate c with
    | mk answer next =>
        have cases_ := mutate_effect s c
        rw [effect] at cases_ raised
        cases cases_ with
        | refused _ _ => rfl
        | answered result _ => cases raised
        | bound result _ _ _ _ => cases raised
        | written m _ accepted event _ => cases raised
        | cut m planned accepted _ unbuilt =>
            exfalso
            by_cases utc : c.eventTime.isUtc = true
            · obtain ⟨record, built⟩ := accepted.event.builds utc
                (accepted.candidateId_not_blank named) accepted.key
                (chosenLineage_returns hex sized c.request.eventLineage)
              rw [built] at unbuilt
              cases unbuilt
            · have notUtc : c.eventTime.isUtc = false := by simpa using utc
              exact condition.elim utc fun unreached =>
                unreached ((plan_accepts notUtc).mp ⟨m, planned⟩)

/-- In every reachable state, a mutation that raises has written nothing, exactly
when its event time is UTC or it does not get to its writes; the transition that
appends no event always is atomic. -/
theorem mutation_atomic_iff (hex : Sha256.HexText) (sized : Sha256.Sized)
    (calls : List RepositoryCall) :
    (∀ c, Atomic (IdeaRepository.empty.run calls) c ↔
      c.eventTime.isUtc = true ∨ ¬ ReachesWrites (IdeaRepository.empty.run calls) c) ∧
    ∀ q error, ((IdeaRepository.empty.run calls).transitionCandidate q).1 = .error error →
      ((IdeaRepository.empty.run calls).transitionCandidate q).2 = IdeaRepository.empty.run calls :=
  ⟨fun c => atomic_iff hex sized (run_keysNamed calls) c, fun _ _ raised => transition_atomic raised⟩

/-! ## A pack requested at a local time -/

/-- The evidence pack of the sample's conversion. -/
def samplePack (requestedAtUtc : DateTime) : Except PyError ReportEvidencePackResult := do
  let converted ← sampleConversion
  let command ← Checked.make ReportEvidencePackCommandFields.checks
    { reportEvidencePackId := "pack-1", purpose := .advisorReviewEvidence
      actorSubject := "advisor-1", idempotencyKey := "pack-1", reasonCodes := [.highCashRatio]
      requestedAtUtc := requestedAtUtc
      retentionPolicyRef := "lotus-report:idea-evidence-retention:v1" }
  requestReportEvidencePack converted.candidate converted.conversionIntent command

def recordPack (result : ReportEvidencePackResult) : MutationCall :=
  .recordReportEvidencePack
    { idempotencyKey := "pack-1", payload := .obj [], eventLineage := some sampleLineage
      result := result }

def isAnswered (decision : PersistenceDecision) (answer : Except PyError PersistenceResult) : Bool :=
  match answer with
  | .ok result => result.decision = decision
  | .error _ => false

/-- The first attempt raises and leaves the pack's index entry, and the second
is answered with a replay. -/
def leavesPackBehind (s : IdeaRepository) (result : ReportEvidencePackResult) : Bool :=
  let attempt := s.mutate (recordPack result)
  !attempt.1.toBool && (s.reportEvidencePackCandidates.get? "pack-1").isNone &&
    (attempt.2.reportEvidencePackCandidates.get? "pack-1").isSome &&
    isAnswered .replayed (attempt.2.mutate (recordPack result)).1

theorem not_atomic_of_leavesPackBehind {s : IdeaRepository} {result : ReportEvidencePackResult}
    (leaves : leavesPackBehind s result = true) :
    ¬ Atomic s (recordPack result) ∧
      isAnswered .replayed ((s.mutate (recordPack result)).2.mutate (recordPack result)).1 = true := by
  simp only [leavesPackBehind, Bool.and_eq_true, Bool.not_eq_true'] at leaves
  obtain ⟨⟨⟨raised, absent⟩, left⟩, replayed⟩ := leaves
  refine ⟨?_, replayed⟩
  intro atomic
  cases run : (s.mutate (recordPack result)).1 with
  | ok value =>
      rw [run] at raised
      cases raised
  | error error =>
      rw [atomic error run] at left
      rw [Option.isNone_iff_eq_none.mp absent] at left
      cases left

end

section Sample

local instance atomicitySha256 : Sha256 := Sha256.zeros

set_option maxRecDepth 10000 in
theorem samplePack_leaves :
    (samplePack ⟨40, some 7200000000⟩).toOption.any
      (leavesPackBehind (IdeaRepository.empty.run sampleConverted)) = true := by
  decide +kernel

/-- The call raises with the pack and its key recorded, and its retry is told that
the pack, which has no event, was recorded. -/
theorem pack_left_without_event : ∃ result,
    samplePack ⟨40, some 7200000000⟩ = .ok result ∧
    ¬ Atomic (IdeaRepository.empty.run sampleConverted) (recordPack result) ∧
    isAnswered .replayed (((IdeaRepository.empty.run sampleConverted).mutate
      (recordPack result)).2.mutate (recordPack result)).1 = true := by
  obtain ⟨result, found, leaves⟩ := (Option.any_eq_true _ _).mp samplePack_leaves
  refine ⟨result, ?_, not_atomic_of_leavesPackBehind leaves⟩
  cases run : samplePack ⟨40, some 7200000000⟩ with
  | error raised =>
      rw [run] at found
      cases found
  | ok value =>
      rw [run] at found
      cases found
      rfl

theorem mutation_atomic_iff_sample :
    (∀ c, Atomic (IdeaRepository.empty.run sampleConverted) c ↔
      c.eventTime.isUtc = true ∨ ¬ ReachesWrites (IdeaRepository.empty.run sampleConverted) c) ∧
    ∀ q error, ((IdeaRepository.empty.run sampleConverted).transitionCandidate q).1 = .error error →
      ((IdeaRepository.empty.run sampleConverted).transitionCandidate q).2 =
        IdeaRepository.empty.run sampleConverted :=
  mutation_atomic_iff Sha256.zeros_hexText Sha256.zeros_sized sampleConverted

end Sample

end LotusIdea

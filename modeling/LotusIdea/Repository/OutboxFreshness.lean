import LotusIdea.Repository.ErrorAtomicity
import LotusIdea.Repository.IntentAuthority

/-!
# The outbox of a mutation

An event id is the digest of the aggregate, the event type, the time and the
fingerprint of the idempotency key.  Since a tenant's key is used up by the
mutation that appends an event, no later mutation builds the same id, and an
append never lands on an event that is there already.
-/

set_option autoImplicit false

namespace LotusIdea

open IdeaRepository (PersistRequest)

/-! ## Event ids -/

theorem eventIdFields_sorted (aggregateId eventType fingerprint occurredAtUtc : List Char) :
    Json.sortFields
      [("aggregate_id", aggregateId), ("event_type", eventType),
       ("idempotency_fingerprint", fingerprint), ("occurred_at_utc", occurredAtUtc)] =
      [("aggregate_id", aggregateId), ("event_type", eventType),
       ("idempotency_fingerprint", fingerprint), ("occurred_at_utc", occurredAtUtc)] := by
  have first : "aggregate_id" ≤ "event_type" := by decide
  have second : "event_type" ≤ "idempotency_fingerprint" := by decide
  have third : "idempotency_fingerprint" ≤ "occurred_at_utc" := by decide
  simp [Json.sortFields, List.insertionSort, first, second, third]

/-- The text that an event id is the digest of. -/
theorem eventIdText (aggregateId eventType fingerprint occurredAtUtc : String) :
    Json.dump (.obj
      [("aggregate_id", .str aggregateId), ("event_type", .str eventType),
       ("idempotency_fingerprint", .str fingerprint), ("occurred_at_utc", .str occurredAtUtc)]) =
      '{' :: Json.quote "aggregate_id" ++ ':' :: (Json.quote aggregateId ++
        ',' :: (Json.quote "event_type" ++ ':' :: (Json.quote eventType ++
        ',' :: (Json.quote "idempotency_fingerprint" ++ ':' :: (Json.quote fingerprint ++
        ',' :: (Json.quote "occurred_at_utc" ++ ':' :: (Json.quote occurredAtUtc ++ ['}']))))))) := by
  simp [Json.dump, Json.dumpFields, eventIdFields_sorted, Json.joined]

section
variable [Sha256]

/-- `_fingerprint` of a key that has text. -/
def keyFingerprint (idempotencyKey : String) : String :=
  "sha256:" ++ Sha256.hexdigest 64 idempotencyKey

theorem keyFingerprint_injective (free : Sha256.CollisionFree 64) :
    Function.Injective keyFingerprint := by
  intro key other same
  exact free (String.append_right_inj _ |>.mp same)

/-- An event id tells the aggregate and the fingerprint. -/
theorem outboxEventId_injective (free : Sha256.CollisionFree 32)
    {eventType eventType' aggregateId aggregateId' fingerprint fingerprint' : String}
    {occurredAtUtc occurredAtUtc' : DateTime}
    (same : outboxEventId eventType aggregateId occurredAtUtc (some fingerprint) =
      outboxEventId eventType' aggregateId' occurredAtUtc' (some fingerprint')) :
    aggregateId = aggregateId' ∧ fingerprint = fingerprint' := by
  have texts := congrArg String.toList (free (String.append_right_inj _ |>.mp same))
  simp only [Json.dumps, String.toList_ofList, Option.elim_some, eventIdText] at texts
  -- each field is a fixed part followed by a quoted string
  have afterKey := List.append_cancel_left texts
  obtain ⟨aggregate, afterAggregate⟩ := Json.quote_append_injective (List.cons.inj afterKey).2
  have atType := List.append_cancel_left (List.cons.inj afterAggregate).2
  obtain ⟨_, afterType⟩ := Json.quote_append_injective (List.cons.inj atType).2
  have atFingerprint := List.append_cancel_left (List.cons.inj afterType).2
  obtain ⟨print, _⟩ := Json.quote_append_injective (List.cons.inj atFingerprint).2
  exact ⟨aggregate, print⟩

/-- The event that a mutation's request builds. -/
theorem CandidateEventRequest.build_returns {e : CandidateEventRequest}
    {event : OutboxEventRecord} (run : e.build = .ok event) :
    event.val.eventId = outboxEventId e.eventType e.aggregateId e.occurredAtUtc
        (some (keyFingerprint e.idempotencyKey)) ∧
      event.val.eventType = e.eventType ∧ event.val.aggregateId = e.aggregateId ∧
      event.val.occurredAtUtc = e.occurredAtUtc := by
  simp only [CandidateEventRequest.build, buildCandidateOutboxEvent] at run
  obtain ⟨_, _, run⟩ := Except.seq_returns.mp run
  obtain ⟨fingerprint, printed, run⟩ := Except.seq_returns.mp run
  simp only [outboxFingerprint] at printed
  obtain ⟨_, _, printed⟩ := Except.seq_returns.mp printed
  cases printed
  obtain ⟨lineage, _, run⟩ := Except.seq_returns.mp run
  obtain ⟨settled, fields⟩ := create_returns run
  rw [fields]
  exact ⟨rfl, rfl, rfl, rfl⟩

/-- Delivery never touches what an event id is made of. -/
theorem EventStep.origin {s : OutboxState} {call : OutboxCall} {id : String}
    {old new : OutboxEventRecord} (change : EventStep s call id old new) :
    new.val.eventType = old.val.eventType ∧ new.val.aggregateId = old.val.aggregateId ∧
      new.val.occurredAtUtc = old.val.occurredAtUtc := by
  cases change with
  | claimed c isClaim ready moved =>
      obtain ⟨lineage, fields⟩ := leaseOutboxEvent_returns moved
      rw [fields]
      exact ⟨rfl, rfl, rfl⟩
  | published m isMark target owned moved =>
      obtain ⟨lineage, fields⟩ := markOutboxEventPublished_returns moved
      rw [fields]
      exact ⟨rfl, rfl, rfl⟩
  | failed m isMark target owned retryAt moved =>
      obtain ⟨lineage, fields⟩ := markOutboxEventFailed_returns moved
      rw [fields]
      exact ⟨rfl, rfl, rfl⟩
  | recovered r isRecovery dead accepted moved =>
      obtain ⟨lineage, fields⟩ := leaseOutboxEvent_returns moved
      rw [fields]
      exact ⟨rfl, rfl, rfl⟩

/-! ## Every event answers for a used key -/

/-- The tenant of the stored candidate `aggregateId` has used `idempotencyKey`. -/
def KeyUsed (s : IdeaRepository) (aggregateId idempotencyKey : String) : Prop :=
  ∃ record scope, s.candidateRecords.get? aggregateId = some record ∧
    record.val.candidate.val.accessScope = some scope ∧
    (s.idempotencyRecords.get? (tenantStorageKey scope.val.tenantId idempotencyKey)).isSome

structure EventLinked (s : IdeaRepository) (id : String) (event : OutboxEventRecord) : Prop where
  named : event.val.eventId = id
  derived : ∃ idempotencyKey,
    id = outboxEventId event.val.eventType event.val.aggregateId event.val.occurredAtUtc
      (some (keyFingerprint idempotencyKey)) ∧
    KeyUsed s event.val.aggregateId idempotencyKey

/-- Records stand under their ids and every event answers for a used key. -/
structure OutboxLinked (s : IdeaRepository) : Prop where
  keyed : s.Keyed
  events : ∀ id event, s.outbox.events.get? id = some event → EventLinked s id event

/-- What a state keeps so that a used key stays used. -/
structure KeepsKeys (s next : IdeaRepository) : Prop where
  records : ∀ id record, s.candidateRecords.get? id = some record →
    ∃ after, next.candidateRecords.get? id = some after ∧
      after.val.candidate.val.accessScope = record.val.candidate.val.accessScope
  keys : ∀ key, (s.idempotencyRecords.get? key).isSome →
    (next.idempotencyRecords.get? key).isSome

theorem KeyUsed.kept {s next : IdeaRepository} (keeps : KeepsKeys s next)
    {aggregateId idempotencyKey : String} (used : KeyUsed s aggregateId idempotencyKey) :
    KeyUsed next aggregateId idempotencyKey := by
  obtain ⟨record, scope, stored, tenant, seen⟩ := used
  obtain ⟨after, there, same⟩ := keeps.records aggregateId record stored
  exact ⟨after, scope, there, same.trans tenant, keeps.keys _ seen⟩

theorem EventLinked.kept {s next : IdeaRepository} (keeps : KeepsKeys s next) {id : String}
    {event : OutboxEventRecord} (linked : EventLinked s id event) : EventLinked next id event := by
  obtain ⟨named, key, shape, used⟩ := linked
  exact ⟨named, key, shape, used.kept keeps⟩

theorem KeepsKeys.refl (s : IdeaRepository) : KeepsKeys s s :=
  ⟨fun _ record stored => ⟨record, stored, rfl⟩, fun _ seen => seen⟩

/-- A step keeps the scopes of its records, whatever it does with the keys. -/
theorem step_keepsKeys {s : IdeaRepository} (keyed : s.Keyed) {c : RepositoryCall}
    (governed : c.Governed)
    (keys : ∀ key, (s.idempotencyRecords.get? key).isSome →
      ((s.step c).idempotencyRecords.get? key).isSome) : KeepsKeys s (s.step c) where
  records := by
    intro id record stored
    rcases step_record keyed c id with same | ⟨new, now, step⟩
    · exact ⟨record, by rw [same]; exact stored, rfl⟩
    · rw [stored] at step
      exact ⟨new, now, step.accessScope governed⟩
  keys := keys

theorem KeyBound.keys {s next : IdeaRepository} (bound : KeyBound s next) :
    ∀ key, (s.idempotencyRecords.get? key).isSome → (next.idempotencyRecords.get? key).isSome := by
  intro key seen
  rcases bound with rfl | ⟨storageKey, idempotencyRecord, candidateId, rfl⟩
  · exact seen
  · exact Dict.isSome_get?_set _ _ seen

theorem KeyBound.outbox {s next : IdeaRepository} (bound : KeyBound s next) :
    next.outbox = s.outbox := by
  rcases bound with rfl | ⟨_, _, _, rfl⟩ <;> rfl

theorem mutate_keys (s : IdeaRepository) (c : MutationCall) :
    ∀ key, (s.idempotencyRecords.get? key).isSome →
      ((s.mutate c).2.idempotencyRecords.get? key).isSome := by
  intro key seen
  cases effect : s.mutate c with
  | mk answer next =>
      have cases_ := mutate_effect s c
      rw [effect] at cases_
      cases cases_ with
      | refused error _ => exact seen
      | answered result _ => exact seen
      | bound result _ _ _ _ => exact Dict.isSome_get?_set _ _ seen
      | cut m _ _ error _ => exact Dict.isSome_get?_set _ _ seen
      | written m _ _ event _ => exact Dict.isSome_get?_set _ _ seen

theorem deliveryRun_keys (s : IdeaRepository) (idempotencyKey : String) (payload : Json) :
    ∀ key, (s.idempotencyRecords.get? key).isSome →
      ((s.recordOutboxDeliveryRunRequest idempotencyKey payload).2.idempotencyRecords.get?
        key).isSome := by
  intro key seen
  unfold IdeaRepository.recordOutboxDeliveryRunRequest
  split
  · exact seen
  · simp only
    split
    · exact Dict.isSome_get?_set _ _ seen
    · exact seen

theorem deliveryRun_outbox (s : IdeaRepository) (idempotencyKey : String) (payload : Json) :
    (s.recordOutboxDeliveryRunRequest idempotencyKey payload).2.outbox = s.outbox := by
  unfold IdeaRepository.recordOutboxDeliveryRunRequest
  split
  · rfl
  · simp only
    split <;> rfl

theorem transition_keeps (s : IdeaRepository) (q : IdeaRepository.TransitionRequest) :
    (s.transitionCandidate q).2.idempotencyRecords = s.idempotencyRecords ∧
      (s.transitionCandidate q).2.outbox = s.outbox := by
  unfold IdeaRepository.transitionCandidate
  split
  · exact ⟨rfl, rfl⟩
  split
  · exact ⟨rfl, rfl⟩
  split <;> exact ⟨rfl, rfl⟩

theorem keepsKeys {s : IdeaRepository} (keyed : s.Keyed) {c : RepositoryCall}
    (governed : c.Governed) : KeepsKeys s (s.step c) := by
  apply step_keepsKeys keyed governed
  cases c with
  | mutate c => exact mutate_keys s c
  | transition q =>
      intro key seen
      rw [IdeaRepository.step, (transition_keeps s q).1]
      exact seen
  | precheckReview q =>
      have bound : KeyBound s (s.precheckReviewMutation q).2 := precheck_keyBound s q
      exact bound.keys
  | precheckOutcome q =>
      have bound : KeyBound s (s.precheckConversionOutcomeMutation q).2 := precheck_keyBound s q
      exact bound.keys
  | requestDeliveryRun key payload => exact deliveryRun_keys s key payload
  | deliver c => exact fun _ seen => seen
  | recordLineage q => exact (lineage_writes s q).keys
  | recordLineageRequest q key payload => exact (lineageRequest_writes s q key payload).keys
  | recordPresentation receipt =>
      obtain ⟨receipts, same⟩ := presentation_frame s receipt
      intro key seen
      rw [IdeaRepository.step, same]
      exact seen

/-! ## Appending -/

/-- The candidate of an accepted mutation is stored with the scope of its key. -/
theorem Accepted.keyUsed {s : IdeaRepository} {c : MutationCall} {m : AcceptedMutation}
    (keyed : s.Keyed) (governed : c.Governed) (accepted : Accepted s c m) :
    KeyUsed (s.write m) m.candidateId c.request.idempotencyKey := by
  obtain ⟨scope, tenant, shape⟩ := accepted.admitted
  refine ⟨m.record, scope, ?_, ?_, ?_⟩
  · simp only [IdeaRepository.write, accepted.recordId_eq keyed]
    exact Dict.get?_set_self _ _ _
  · have changes := accepted.changes
    cases found : s.candidateRecords.get? m.candidateId with
    | none =>
        simp only [scopedCandidate, found, Option.getD_none] at tenant
        exact tenant
    | some old =>
        rw [found] at changes
        simp only [scopedCandidate, found, Option.getD_some] at tenant
        have good : RepositoryCall.Governed (.mutate c) := governed
        rw [changes.accessScope good]
        exact tenant
  · simp only [IdeaRepository.write, IdeaRepository.bindIdempotency, ← shape,
      Dict.get?_set_self, Option.isSome_some]

/-- The event id of an accepted mutation is not in the outbox. -/
theorem Accepted.fresh {s : IdeaRepository} (free : Sha256.CollisionFree 32)
    (free' : Sha256.CollisionFree 64) (linked : OutboxLinked s) {c : MutationCall}
    {m : AcceptedMutation} (accepted : Accepted s c m) {event : OutboxEventRecord}
    (built : m.event.build = .ok event) : s.outbox.events.get? event.val.eventId = none := by
  obtain ⟨derived, _, _, _⟩ := CandidateEventRequest.build_returns built
  cases present : s.outbox.events.get? event.val.eventId with
  | none => rfl
  | some earlier =>
      obtain ⟨_, key, shape, record, scope, stored, tenant, seen⟩ :=
        linked.events _ earlier present
      rw [derived] at shape
      obtain ⟨aggregate, print⟩ := outboxEventId_injective free shape
      have sameKey := keyFingerprint_injective free' print
      obtain ⟨scope', tenant', storageKey⟩ := accepted.admitted
      rw [accepted.event.aggregateId] at aggregate
      -- the earlier event's candidate is this mutation's, so its key is already used
      rw [← aggregate] at stored
      simp only [scopedCandidate, stored, Option.getD_some, tenant, Option.some.injEq] at tenant'
      subst tenant'
      have unseen := accepted.unseen
      rw [storageKey, ← accepted.event.idempotencyKey, sameKey] at unseen
      rw [unseen] at seen
      cases seen

/-- A delivered event is linked as before. -/
theorem deliver_linked {s : IdeaRepository} (linked : OutboxLinked s) (call : OutboxCall) :
    ∀ id event, (s.outbox.step call).events.get? id = some event → EventLinked s id event := by
  have keyed : s.outbox.events.Keyed := fun id event stored => (linked.events id event stored).named
  intro id event stored
  rcases step_event keyed call id with same | ⟨old, new, before, after, change⟩
  · rw [same] at stored
    exact linked.events id event stored
  · rw [after] at stored
    cases stored
    obtain ⟨named, key, shape, used⟩ := linked.events id old before
    obtain ⟨eventType, aggregateId, occurredAtUtc⟩ := change.origin
    refine ⟨change.fields.1.trans named, key, ?_, ?_⟩
    · rw [eventType, aggregateId, occurredAtUtc]
      exact shape
    · rw [aggregateId]
      exact used

theorem mutate_linked {s : IdeaRepository} (linked : OutboxLinked s) {c : MutationCall}
    (governed : c.Governed) :
    ∀ id event, (s.mutate c).2.outbox.events.get? id = some event →
      EventLinked (s.mutate c).2 id event := by
  have keeps : KeepsKeys s (s.mutate c).2 :=
    keepsKeys (c := .mutate c) linked.keyed governed
  intro id event stored
  cases effect : s.mutate c with
  | mk answer next =>
      have cases_ := mutate_effect s c
      rw [effect] at cases_ stored keeps
      cases cases_ with
      | refused error _ => exact linked.events id event stored
      | answered result _ => exact linked.events id event stored
      | bound result _ _ _ _ => exact (linked.events id event stored).kept keeps
      | cut m _ _ error _ => exact (linked.events id event stored).kept keeps
      | written m _ accepted new built =>
          obtain ⟨derived, eventType, aggregateId, occurredAtUtc⟩ :=
            CandidateEventRequest.build_returns built
          by_cases here : id = new.val.eventId
          · subst here
            simp only [IdeaRepository.appendEvent, Dict.get?_set_self, Option.some.injEq] at stored
            subst stored
            refine ⟨rfl, c.request.idempotencyKey, ?_, ?_⟩
            · rw [eventType, aggregateId, occurredAtUtc, ← accepted.event.idempotencyKey]
              exact derived
            · rw [aggregateId, accepted.event.aggregateId]
              exact accepted.keyUsed linked.keyed governed
          · simp only [IdeaRepository.appendEvent, Dict.get?_set_of_ne _ here] at stored
            exact (linked.events id event stored).kept keeps

theorem step_linked {s : IdeaRepository} (linked : OutboxLinked s) {c : RepositoryCall}
    (governed : c.Governed) : OutboxLinked (s.step c) where
  keyed := keyed_after_step linked.keyed governed
  events := by
    have keeps := keepsKeys linked.keyed governed
    intro id event stored
    cases c with
    | mutate c => exact mutate_linked linked governed id event stored
    | transition q =>
        simp only [IdeaRepository.step, (transition_keeps s q).2] at stored
        exact (linked.events id event stored).kept keeps
    | precheckReview q =>
        have bound : KeyBound s (s.precheckReviewMutation q).2 := precheck_keyBound s q
        simp only [IdeaRepository.step, bound.outbox] at stored
        exact (linked.events id event stored).kept keeps
    | precheckOutcome q =>
        have bound : KeyBound s (s.precheckConversionOutcomeMutation q).2 := precheck_keyBound s q
        simp only [IdeaRepository.step, bound.outbox] at stored
        exact (linked.events id event stored).kept keeps
    | requestDeliveryRun key payload =>
        simp only [IdeaRepository.step, deliveryRun_outbox] at stored
        exact (linked.events id event stored).kept keeps
    | deliver call => exact (deliver_linked linked call id event stored).kept keeps
    | recordLineage q =>
        simp only [IdeaRepository.step, (lineage_writes s q).outbox] at stored
        exact (linked.events id event stored).kept keeps
    | recordLineageRequest q key payload =>
        simp only [IdeaRepository.step, (lineageRequest_writes s q key payload).outbox] at stored
        exact (linked.events id event stored).kept keeps
    | recordPresentation receipt =>
        obtain ⟨receipts, same⟩ := presentation_frame s receipt
        simp only [IdeaRepository.step, same] at stored
        exact (linked.events id event stored).kept keeps

theorem run_linked {calls : List RepositoryCall} (governed : ∀ c ∈ calls, c.Governed) :
    OutboxLinked (IdeaRepository.empty.run calls) :=
  Runs.invariant IdeaRepository.step RepositoryCall.Governed OutboxLinked
    (fun _ _ good linked => step_linked linked good)
    ⟨keyed_empty, fun id event stored => by simp [IdeaRepository.empty] at stored⟩ governed

/-! ## Exactly one event -/

/-- The outbox after a mutation that returned `result`: one new event at its end
for a disposition that reports a write, and nothing for any other. -/
def OutboxAnswers (s : IdeaRepository) (result : PersistenceResult) (next : IdeaRepository) :
    Prop :=
  if result.decision.isAccepting then
    ∃ event : OutboxEventRecord, s.outbox.events.get? event.val.eventId = none ∧
      next.outbox.events.entries = s.outbox.events.entries ++ [(event.val.eventId, event)] ∧
      next.outbox.recoveryRecords = s.outbox.recoveryRecords
  else next.outbox = s.outbox

theorem evidenceHash_not_blank (sourceRefs : List SourceRef) :
    PyText.isBlank (evidenceHashForSourceRefs sourceRefs) = false :=
  PyText.isBlank_append_of_left _ (by decide)

/-- The first entry of a version history can be written for any candidate. -/
theorem ofCandidate_returns (c : IdeaCandidate) (sourceRefs : List SourceRef)
    (sourceLifecycleStatus : Option IdeaLifecycleStatus) {recordedAtUtc : DateTime}
    (utc : recordedAtUtc.isUtc = true) :
    ∃ entry, CandidateVersionHistoryEntry.ofCandidate c (evidenceHashForSourceRefs sourceRefs)
      sourceLifecycleStatus recordedAtUtc = .ok entry := by
  have named := candidateId_not_blank c
  have identity := c.val.identity.valid
  simp only [CandidateIdentityFields.checks, firstFailure_append, firstFailure_cons,
    requireText_passes] at identity
  have digest : PyText.startsWith (evidenceHashForSourceRefs sourceRefs) sha256DigestStart = true :=
    PyText.startsWith_append _ _
  obtain ⟨⟨business, _, fingerprint, starts, material, evidence, _⟩, supersedes⟩ := identity
  refine ⟨_, Checked.make_of_valid ?_⟩
  simp [CandidateVersionHistoryEntryFields.checks, named, business, fingerprint,
    evidenceHash_not_blank, starts, digest, material, evidence, supersedes, utc]

/-- A candidate that is not stored is planned for under a key that its tenant has not
used. -/
theorem persistPlan_accepts {s : IdeaRepository} {q : PersistRequest} {scope : ReviewAccessScope}
    (authoritative : IdeaRepository.requireAuthoritativeScope q.candidate = .ok scope)
    (filled : PyText.isBlank q.idempotencyKey = false)
    (actor : PyText.isBlank q.actorSubject = false) (utc : q.occurredAtUtc.isUtc = true)
    (unseen : s.idempotencyRecords.get?
      (tenantStorageKey scope.val.tenantId q.idempotencyKey) = none)
    (absent : s.candidateRecords.get? q.candidate.val.candidateId = none) :
    Accepts (s.persistPlan q) := by
  obtain ⟨auditEvent, audited⟩ : ∃ auditEvent, AuditEvent.create
      { eventType := "idea.candidate.persisted"
        actorSubject := q.actorSubject
        outcome := "accepted"
        occurredAtUtc := q.occurredAtUtc
        attributes :=
          [("candidate_family", q.candidate.val.family.value),
           ("lifecycle_status", q.candidate.val.lifecycleStatus.value),
           ("idempotency_decision", IdempotencyDecision.accepted.value)] } = .ok auditEvent := by
    have named : PyText.isBlank "idea.candidate.persisted" = false := by decide
    have told : PyText.isBlank "accepted" = false := by decide
    refine ⟨_, Checked.make_of_valid ?_⟩
    simp [AuditEventFields.checks, AuditEventFields.leakedKeys, forbiddenAttributeKeys, requireAware,
      named, told, actor, DateTime.isNaive_of_isUtc utc]
  obtain ⟨entry, told⟩ := ofCandidate_returns q.candidate
    q.candidate.val.evidencePacket.val.sourceRefs none utc
  simp only [IdeaRepository.persistPlan]
  refine accepts_validated.mpr ⟨by simp [filled, actor], ?_⟩
  refine accepts_seq.mpr ⟨scope, authoritative, accepts_validated.mpr ⟨by simp [utc], ?_⟩⟩
  refine accepts_seq.mpr ⟨_, admit_unseen q.payload filled unseen, ?_⟩
  simp only [absent, IdeaRepository.createPlan]
  refine accepts_seq.mpr ⟨auditEvent, audited, accepts_seq.mpr ⟨entry, told, ?_⟩⟩
  refine accepts_seq.mpr ⟨_, Checked.make_of_valid ?_, accepts_ok⟩
  simp [CandidatePersistenceRecordFields.checks, evidenceHash_not_blank, utc]

/-- A candidate that is not stored is accepted under a key that its tenant has
not used. -/
theorem persist_accepted {s : IdeaRepository} (named : KeysNamed s) {q : PersistRequest}
    {scope : ReviewAccessScope} {lineage : EventLineageContext}
    (authoritative : IdeaRepository.requireAuthoritativeScope q.candidate = .ok scope)
    (filled : PyText.isBlank q.idempotencyKey = false)
    (actor : PyText.isBlank q.actorSubject = false) (utc : q.occurredAtUtc.isUtc = true)
    (unseen : s.idempotencyRecords.get?
      (tenantStorageKey scope.val.tenantId q.idempotencyKey) = none)
    (absent : s.candidateRecords.get? q.candidate.val.candidateId = none)
    (carried : q.eventLineage = some lineage) :
    ∃ result, (s.mutate (.persistCandidate q)).1 = .ok result ∧
      result.decision.isAccepting = true := by
  obtain ⟨m, planned⟩ := persistPlan_accepts authoritative filled actor utc unseen absent
  have isPlan : MutationCall.plan s (.persistCandidate q) = .ok (.accept m) := planned
  have accepted : Accepted s (.persistCandidate q) m := plan_sound isPlan
  obtain ⟨event, built⟩ := accepted.event.builds utc (accepted.candidateId_not_blank named) filled
    fun eventId => ⟨lineage, by simp [MutationCall.request, carried, chosenLineage]⟩
  refine ⟨m.result, ?_, accepted.accepting⟩
  simp only [IdeaRepository.mutate, IdeaRepository.runPlan, isPlan, IdeaRepository.commit, built]

end

section Sample

local instance freshnessSha256 : Sha256 := Sha256.extended []

end Sample

end LotusIdea

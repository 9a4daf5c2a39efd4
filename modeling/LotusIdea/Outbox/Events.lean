import LotusIdea.Domain.Vocabulary
import LotusIdea.Foundation.CanonicalJson
import LotusIdea.Foundation.Digest

/-!
# Outbox events

`outbox/events.py`: the event record with the invariants its constructor
couples (status, lease, failure times, counters, lineage, payload keys), the
builder of candidate events and the three transitions of a delivery.
-/

set_option autoImplicit false

namespace LotusIdea

/-! ## Diagnostic identifiers -/

def isAsciiAlnum (c : Char) : Bool :=
  ('A' ≤ c && c ≤ 'Z') || ('a' ≤ c && c ≤ 'z') || ('0' ≤ c && c ≤ '9')

/-- `^[A-Za-z0-9][A-Za-z0-9.:-]{0,95}$`. -/
def matchesContextIdPattern : List Char → Bool
  | [] => false
  | first :: rest =>
      isAsciiAlnum first && decide (rest.length ≤ 95) &&
        rest.all fun c => isAsciiAlnum c || c = '.' || c = ':' || c = '-'

def sensitiveContextFragments : List String :=
  ["access_token", "api-key", "apikey", "authorization", "bearer", "client_secret", "password",
   "secret", "token"]

def isWordChar (c : Char) : Bool := isAsciiAlnum c || c = '_'

/-- A match of `PB_[A-Z0-9_]{6,}\b` at this position, ignoring case. -/
def startsPortfolioReference : List Char → Bool
  | p :: b :: underscore :: rest =>
      (p = 'P' || p = 'p') && (b = 'B' || b = 'b') && underscore = '_' &&
        decide (6 ≤ (rest.takeWhile isWordChar).length)
  | _ => false

/-- `_PORTFOLIO_LIKE_PATTERN.search`, `afterWord` telling what stands before. -/
def portfolioLike (afterWord : Bool) : List Char → Bool
  | [] => false
  | c :: rest =>
      (!afterWord && startsPortfolioReference (c :: rest)) || portfolioLike (isWordChar c) rest

def isProductSafeContextId (value : String) : Bool :=
  let normalized := PyText.strip value
  let text := normalized.toList
  !text.isEmpty && decide (text.length ≤ 96) && matchesContextIdPattern text &&
    !(sensitiveContextFragments.any fun fragment =>
        PyText.contains (PyText.lower normalized) fragment.toList) &&
    !portfolioLike false text

/-- `require_product_safe_context_id`. -/
def requireProductSafeContextId (value fieldName : String) : Bool × PyError :=
  (!isProductSafeContextId value,
    .valueError (fieldName ++ " must be a product-safe diagnostic identifier"))

@[simp] theorem isProductSafeContextId_strip (value : String) :
    isProductSafeContextId (PyText.strip value) = isProductSafeContextId value := by
  simp only [isProductSafeContextId, PyText.strip_strip]

/-! ## Lineage -/

inductive OutboxEventStatus where
  | pending
  | leased
  | failed
  | deadLetter
  | published
  deriving DecidableEq, Repr

inductive EventLineageOrigin where
  | request
  | parentEvent
  | systemGenerated
  | legacyMigrated
  deriving DecidableEq, Repr

structure EventLineageFields where
  correlationId : String
  traceId : String
  causationId : Option String := none
  origin : EventLineageOrigin := .request
  deriving DecidableEq, Repr

namespace EventLineageFields

def normalized (l : EventLineageFields) : EventLineageFields :=
  { l with
    correlationId := PyText.strip l.correlationId
    traceId := PyText.strip l.traceId
    causationId := l.causationId.map PyText.strip }

def checks (l : EventLineageFields) : List (Bool × PyError) :=
  [requireProductSafeContextId l.correlationId "correlation_id",
   requireProductSafeContextId l.traceId "trace_id",
   (l.causationId.any fun id => !isProductSafeContextId id,
     .valueError "causation_id must be a product-safe diagnostic identifier"),
   (l.origin = .parentEvent && l.causationId.isNone,
     .valueError "causation_id is required for parent_event lineage"),
   (l.causationId.isSome && l.origin ≠ .parentEvent && l.origin ≠ .legacyMigrated,
     .valueError "causation_id is allowed only for parent_event lineage")]

/-- Normalising the identifiers decides no check. -/
theorem checks_normalized (l : EventLineageFields) : l.normalized.checks = l.checks := by
  cases causation : l.causationId with
  | none => simp [checks, normalized, requireProductSafeContextId, causation]
  | some id => simp [checks, normalized, requireProductSafeContextId, causation]

end EventLineageFields

abbrev EventLineageContext := Checked EventLineageFields.checks

/-- The constructor: identifiers are stored stripped. -/
def EventLineageContext.create (l : EventLineageFields) : Except PyError EventLineageContext :=
  Checked.make EventLineageFields.checks l.normalized

/-! ## Event records -/

def forbiddenOutboxPayloadKeys : List String :=
  ["account_id", "client_id", "client_name", "content_hash", "evidence_hash", "holding_id",
   "idempotency_key", "portfolio_id", "raw_source_payload", "request_body", "response_body",
   "route", "source_route"]

def outboxEventSchemaVersion : String := "v1"

def outboxEventAggregateType : String := "idea_candidate"

def supportedOutboxEventTypes : List String :=
  ["idea.candidate.persisted.v1",
   "idea.candidate.evidence_refreshed.v1",
   "idea.candidate.material_version_created.v1",
   "idea.candidate.recurrent_condition_reopened.v1",
   "idea.lifecycle.transitioned.v1",
   "idea.review.decision_recorded.v1",
   "idea.feedback.recorded.v2",
   "idea.conversion.intent_requested.v1",
   "idea.conversion.outcome_recorded.v1",
   "idea.report_evidence_pack.requested.v1"]

/-- The scalars that event payloads hold. -/
inductive PayloadValue where
  | text (value : String)
  | number (value : Int)
  | flag (value : Bool)
  | absent
  deriving DecidableEq, Repr

structure OutboxEventFields where
  eventId : String
  eventType : String
  aggregateType : String
  aggregateId : String
  schemaVersion : String
  payload : List (String × PayloadValue)
  occurredAtUtc : DateTime
  status : OutboxEventStatus := .pending
  idempotencyFingerprint : Option String := none
  correlationId : String := ""
  traceId : String := ""
  causationId : Option String := none
  lineageOrigin : EventLineageOrigin := .systemGenerated
  publishedAtUtc : Option DateTime := none
  failureReason : Option String := none
  retryCount : Int := 0
  firstFailedAtUtc : Option DateTime := none
  lastFailedAtUtc : Option DateTime := none
  nextAttemptAtUtc : Option DateTime := none
  leaseOwner : Option String := none
  leaseAttemptId : Option String := none
  leaseExpiresAtUtc : Option DateTime := none
  deriving DecidableEq

namespace OutboxEventFields

def identityChecks (e : OutboxEventFields) : List (Bool × PyError) :=
  [requireText e.eventId "event_id",
   requireText e.eventType "event_type",
   requireText e.aggregateType "aggregate_type",
   requireText e.aggregateId "aggregate_id",
   requireText e.schemaVersion "schema_version",
   (!supportedOutboxEventTypes.contains e.eventType,
     .valueError ("unsupported outbox event_type: " ++ e.eventType)),
   (e.aggregateType != outboxEventAggregateType,
     .valueError ("unsupported outbox aggregate_type: " ++ e.aggregateType)),
   (e.schemaVersion != outboxEventSchemaVersion,
     .valueError ("unsupported outbox schema_version: " ++ e.schemaVersion))] ++
  requireAwareUtc e.occurredAtUtc "occurred_at_utc"

def lineage (e : OutboxEventFields) : EventLineageFields where
  correlationId := e.correlationId
  traceId := e.traceId
  causationId := e.causationId
  origin := e.lineageOrigin

def withLineage (e : OutboxEventFields) (l : EventLineageContext) : OutboxEventFields :=
  { e with
    correlationId := l.val.correlationId
    traceId := l.val.traceId
    causationId := l.val.causationId
    lineageOrigin := l.val.origin }

def optionalUtc (value : Option DateTime) (fieldName : String) : List (Bool × PyError) :=
  value.elim [] fun t => requireAwareUtc t fieldName

def timeChecks (e : OutboxEventFields) : List (Bool × PyError) :=
  optionalUtc e.publishedAtUtc "published_at_utc" ++
  optionalUtc e.firstFailedAtUtc "first_failed_at_utc" ++
  optionalUtc e.lastFailedAtUtc "last_failed_at_utc" ++
  optionalUtc e.nextAttemptAtUtc "next_attempt_at_utc" ++
  optionalUtc e.leaseExpiresAtUtc "lease_expires_at_utc" ++
  [(decide (e.retryCount < 0), .valueError "retry_count cannot be negative")]

def leaseChecks (e : OutboxEventFields) : List (Bool × PyError) :=
  if e.status = .leased then
    [requireText (e.leaseOwner.getD "") "lease_owner",
     requireText (e.leaseAttemptId.getD "") "lease_attempt_id",
     (e.leaseExpiresAtUtc.isNone,
       .valueError "lease_expires_at_utc is required for leased outbox events")]
  else
    [(e.leaseOwner.isSome || e.leaseAttemptId.isSome || e.leaseExpiresAtUtc.isSome,
       .valueError "lease metadata is allowed only for leased outbox events")]

/-- What each status asks of the failure reason and the failure times. -/
def statusChecks (e : OutboxEventFields) : List (Bool × PyError) :=
  match e.status with
  | .pending =>
      [(e.firstFailedAtUtc.isSome || e.lastFailedAtUtc.isSome || e.nextAttemptAtUtc.isSome,
         .valueError "failure timing is allowed only for failed or leased outbox events")]
  | .leased =>
      [(e.firstFailedAtUtc.isNone != e.lastFailedAtUtc.isNone,
         .valueError "leased outbox failure timing must include first and last failure"),
       (e.nextAttemptAtUtc.isSome,
         .valueError "leased outbox events cannot have next_attempt_at_utc")]
  | .published =>
      [(e.publishedAtUtc.isNone,
         .valueError "published_at_utc is required for published outbox events"),
       (e.firstFailedAtUtc.isNone != e.lastFailedAtUtc.isNone,
         .valueError "published outbox failure timing must include first and last failure"),
       (e.nextAttemptAtUtc.isSome,
         .valueError "published outbox events cannot have next_attempt_at_utc")]
  | .failed =>
      [requireText (e.failureReason.getD "") "failure_reason",
       (e.firstFailedAtUtc.isNone,
         .valueError "first_failed_at_utc is required for failed outbox events"),
       (e.lastFailedAtUtc.isNone,
         .valueError "last_failed_at_utc is required for failed outbox events"),
       (e.nextAttemptAtUtc.isNone,
         .valueError "next_attempt_at_utc is required for retryable failed outbox events")]
  | .deadLetter =>
      [requireText (e.failureReason.getD "") "failure_reason",
       (e.firstFailedAtUtc.isNone,
         .valueError "first_failed_at_utc is required for failed outbox events"),
       (e.lastFailedAtUtc.isNone,
         .valueError "last_failed_at_utc is required for failed outbox events"),
       (e.nextAttemptAtUtc.isSome,
         .valueError "dead-lettered outbox events cannot have next_attempt_at_utc")]

def leakedKeys (e : OutboxEventFields) : List String :=
  forbiddenOutboxPayloadKeys.filter fun key => (e.payload.map Prod.fst).contains key

def payloadChecks (e : OutboxEventFields) : List (Bool × PyError) :=
  [(!e.leakedKeys.isEmpty,
     .valueError ("Outbox event payload contains sensitive keys: " ++
       String.intercalate ", " e.leakedKeys))]

def checks (e : OutboxEventFields) : List (Bool × PyError) :=
  e.identityChecks ++ e.lineage.checks ++ e.timeChecks ++ e.leaseChecks ++ e.statusChecks ++
    e.payloadChecks

@[simp] theorem optionalUtc_pass {value : Option DateTime} {fieldName : String} :
    firstFailure (optionalUtc value fieldName) = none ↔
      ∀ t, value = some t → t.isUtc = true := by
  cases value with
  | none => simp [optionalUtc]
  | some t => simp [optionalUtc]

theorem timeChecks_pass {e : OutboxEventFields} :
    firstFailure e.timeChecks = none ↔
      (∀ t, e.publishedAtUtc = some t → t.isUtc = true) ∧
      (∀ t, e.firstFailedAtUtc = some t → t.isUtc = true) ∧
      (∀ t, e.lastFailedAtUtc = some t → t.isUtc = true) ∧
      (∀ t, e.nextAttemptAtUtc = some t → t.isUtc = true) ∧
      (∀ t, e.leaseExpiresAtUtc = some t → t.isUtc = true) ∧ 0 ≤ e.retryCount := by
  simp only [timeChecks, firstFailure_append, optionalUtc_pass, firstFailure_cons,
    firstFailure_nil, decide_eq_false_iff_not, not_lt, and_true, and_assoc]

theorem checks_pass {e : OutboxEventFields} :
    firstFailure e.checks = none ↔
      firstFailure e.identityChecks = none ∧ firstFailure e.lineage.checks = none ∧
      firstFailure e.timeChecks = none ∧ firstFailure e.leaseChecks = none ∧
      firstFailure e.statusChecks = none ∧ firstFailure e.payloadChecks = none := by
  simp only [checks, firstFailure_append, and_assoc]

end OutboxEventFields

abbrev OutboxEventRecord := Checked OutboxEventFields.checks

section Records
variable [Sha256]

/-- `_system_event_lineage`. -/
def systemEventLineage (eventId : String) : Except PyError EventLineageContext :=
  let digest := Sha256.hexdigest 24 eventId
  EventLineageContext.create
    { correlationId := "corr-system-" ++ digest
      traceId := "trace-system-" ++ digest
      origin := .systemGenerated }

/-- The lineage that `__post_init__` settles on. -/
def OutboxEventFields.settledLineage (e : OutboxEventFields) :
    Except PyError EventLineageContext :=
  if e.correlationId = "" ∧ e.traceId = "" then systemEventLineage e.eventId
  else EventLineageContext.create e.lineage

/-- The constructor: identity and lineage are checked before the rest. -/
def OutboxEventRecord.create (e : OutboxEventFields) : Except PyError OutboxEventRecord := do
  validate e.identityChecks
  let lineage ← e.settledLineage
  Checked.make OutboxEventFields.checks (e.withLineage lineage)

def outboxFingerprint (value : String) : Except PyError String := do
  validate [requireText value "idempotency_key"]
  return "sha256:" ++ Sha256.hexdigest 64 value

def outboxEventId (eventType aggregateId : String) (occurredAtUtc : DateTime)
    (idempotencyFingerprint : Option String) : String :=
  "evt_" ++ Sha256.hexdigest 32 (Json.dumps (.obj
    [("aggregate_id", .str aggregateId),
     ("event_type", .str eventType),
     ("idempotency_fingerprint", idempotencyFingerprint.elim .null .str),
     ("occurred_at_utc", .str occurredAtUtc.isoformat)]))

/-- The lineage of the request, or the system's. -/
def chosenLineage (lineage : Option EventLineageContext) (eventId : String) :
    Except PyError EventLineageContext :=
  match lineage with
  | some given => .ok given
  | none => systemEventLineage eventId

/-- The record that the builder passes to the constructor. -/
def candidateEventFields (eventType aggregateId : String) (occurredAtUtc : DateTime)
    (payload : List (String × PayloadValue)) (idempotencyFingerprint : Option String)
    (lineage : EventLineageContext) : OutboxEventFields where
  eventId := outboxEventId eventType aggregateId occurredAtUtc idempotencyFingerprint
  eventType := eventType
  aggregateType := outboxEventAggregateType
  aggregateId := aggregateId
  schemaVersion := outboxEventSchemaVersion
  payload := payload
  occurredAtUtc := occurredAtUtc
  idempotencyFingerprint := idempotencyFingerprint
  correlationId := lineage.val.correlationId
  traceId := lineage.val.traceId
  causationId := lineage.val.causationId
  lineageOrigin := lineage.val.origin

/-- `build_candidate_outbox_event`, with the idempotency key that the repository
always passes. -/
def buildCandidateOutboxEvent (eventType aggregateId : String) (occurredAtUtc : DateTime)
    (payload : List (String × PayloadValue)) (idempotencyKey : String)
    (lineage : Option EventLineageContext) : Except PyError OutboxEventRecord := do
  validate (requireAwareUtc occurredAtUtc "occurred_at_utc")
  let idempotencyFingerprint ← outboxFingerprint idempotencyKey
  let eventLineage ← chosenLineage lineage
    (outboxEventId eventType aggregateId occurredAtUtc (some idempotencyFingerprint))
  OutboxEventRecord.create (candidateEventFields eventType aggregateId occurredAtUtc payload
    (some idempotencyFingerprint) eventLineage)

/-! ## Transitions -/

def OutboxEventFields.leasedTo (e : OutboxEventFields) (leaseOwner leaseAttemptId : String)
    (leaseExpiresAtUtc : DateTime) : OutboxEventFields :=
  { e with
    status := .leased
    publishedAtUtc := none
    nextAttemptAtUtc := none
    leaseOwner := some leaseOwner
    leaseAttemptId := some leaseAttemptId
    leaseExpiresAtUtc := some leaseExpiresAtUtc }

/-- The lease's own checks. -/
def leaseArgumentChecks (leaseOwner leaseAttemptId : String) (leaseExpiresAtUtc : DateTime) :
    List (Bool × PyError) :=
  [requireText leaseOwner "lease_owner", requireText leaseAttemptId "lease_attempt_id"] ++
    requireAwareUtc leaseExpiresAtUtc "lease_expires_at_utc"

def leaseOutboxEvent (event : OutboxEventRecord) (leaseOwner leaseAttemptId : String)
    (leaseExpiresAtUtc : DateTime) : Except PyError OutboxEventRecord := do
  validate (leaseArgumentChecks leaseOwner leaseAttemptId leaseExpiresAtUtc)
  OutboxEventRecord.create (event.val.leasedTo leaseOwner leaseAttemptId leaseExpiresAtUtc)

def OutboxEventFields.publishedAt (e : OutboxEventFields) (publishedAtUtc : DateTime) :
    OutboxEventFields :=
  { e with
    status := .published
    publishedAtUtc := some publishedAtUtc
    nextAttemptAtUtc := none
    leaseOwner := none
    leaseAttemptId := none
    leaseExpiresAtUtc := none }

def markOutboxEventPublished (event : OutboxEventRecord) (publishedAtUtc : DateTime) :
    Except PyError OutboxEventRecord := do
  validate (requireAwareUtc publishedAtUtc "published_at_utc")
  OutboxEventRecord.create (event.val.publishedAt publishedAtUtc)

def leakedFailureKeys (failureReason : String) : List String :=
  forbiddenOutboxPayloadKeys.filter fun key =>
    PyText.contains (PyText.lower failureReason) key.toList

/-- `validate_outbox_failure_reason`. -/
def failureReasonChecks (failureReason : String) : List (Bool × PyError) :=
  [requireText failureReason "failure_reason",
   (!(leakedFailureKeys failureReason).isEmpty,
     .valueError ("Outbox failure reason contains sensitive keys: " ++
       String.intercalate ", " (leakedFailureKeys failureReason)))]

def requirePositive (value : Int) (fieldName : String) : Bool × PyError :=
  (decide (value ≤ 0), .valueError (fieldName ++ " must be positive"))

/-- The status after one more failure. -/
def statusAfterFailure (retryCount maxRetryCount : Int) : OutboxEventStatus :=
  if maxRetryCount ≤ retryCount + 1 then .deadLetter else .failed

/-- What the next attempt must be for the status after the failure. -/
def nextAttemptChecks (status : OutboxEventStatus) (failedAtUtc : DateTime)
    (nextAttemptAtUtc : Option DateTime) : List (Bool × PyError) :=
  match status, nextAttemptAtUtc with
  | .failed, none =>
      [(true, .valueError "next_attempt_at_utc is required for retryable failed outbox events")]
  | .failed, some next =>
      requireAwareUtc next "next_attempt_at_utc" ++
      [(decide (next ≤ failedAtUtc),
        .valueError "next_attempt_at_utc must be after failed_at_utc")]
  | _, none => []
  | _, some _ =>
      [(true, .valueError "dead-lettered outbox events cannot have next_attempt_at_utc")]

def OutboxEventFields.failedAt (e : OutboxEventFields) (failureReason : String)
    (failedAtUtc : DateTime) (maxRetryCount : Int) (nextAttemptAtUtc : Option DateTime) :
    OutboxEventFields :=
  { e with
    status := statusAfterFailure e.retryCount maxRetryCount
    publishedAtUtc := none
    failureReason := some failureReason
    retryCount := e.retryCount + 1
    firstFailedAtUtc := some (e.firstFailedAtUtc.getD failedAtUtc)
    lastFailedAtUtc := some failedAtUtc
    nextAttemptAtUtc := nextAttemptAtUtc
    leaseOwner := none
    leaseAttemptId := none
    leaseExpiresAtUtc := none }

/-- The checks `mark_outbox_event_failed` makes of its arguments. -/
def failureArgumentChecks (event : OutboxEventRecord) (failureReason : String)
    (failedAtUtc : DateTime) (maxRetryCount : Int) (nextAttemptAtUtc : Option DateTime) :
    List (Bool × PyError) :=
  failureReasonChecks failureReason ++ requireAwareUtc failedAtUtc "failed_at_utc" ++
    [requirePositive maxRetryCount "max_retry_count"] ++
    nextAttemptChecks (statusAfterFailure event.val.retryCount maxRetryCount) failedAtUtc
      nextAttemptAtUtc

def markOutboxEventFailed (event : OutboxEventRecord) (failureReason : String)
    (failedAtUtc : DateTime) (maxRetryCount : Int) (nextAttemptAtUtc : Option DateTime) :
    Except PyError OutboxEventRecord := do
  validate (failureArgumentChecks event failureReason failedAtUtc maxRetryCount nextAttemptAtUtc)
  OutboxEventRecord.create
    (event.val.failedAt failureReason failedAtUtc maxRetryCount nextAttemptAtUtc)

/-! ## The transitions raise only what their own checks raise -/

/-- The record that the constructor stores for fields that pass every check. -/
def OutboxEventFields.settled (e : OutboxEventFields) : OutboxEventFields :=
  { e with
    correlationId := PyText.strip e.correlationId
    traceId := PyText.strip e.traceId
    causationId := e.causationId.map PyText.strip }

omit [Sha256] in
theorem correlationId_nonempty {e : OutboxEventFields}
    (passed : firstFailure e.lineage.checks = none) : e.correlationId ≠ "" := by
  intro empty
  have unsafe_ : isProductSafeContextId "" = false := by decide
  simp [EventLineageFields.checks, OutboxEventFields.lineage, requireProductSafeContextId, empty,
    unsafe_] at passed

omit [Sha256] in
/-- A time that is not set passes its check. -/
theorem unset_times (t : DateTime) (set : none = some t) : t.isUtc = true := by
  cases set

theorem create_of_valid {e : OutboxEventFields} (passed : firstFailure e.checks = none) :
    ∃ record, OutboxEventRecord.create e = .ok record ∧ record.val = e.settled := by
  obtain ⟨identity, lineage, times, lease, status, payload⟩ :=
    OutboxEventFields.checks_pass.mp passed
  have normal : firstFailure e.lineage.normalized.checks = none := by
    rw [EventLineageFields.checks_normalized]
    exact lineage
  have settledLineage : e.settledLineage = .ok ⟨e.lineage.normalized, normal⟩ := by
    have given : ¬ (e.correlationId = "" ∧ e.traceId = "") := fun empty =>
      correlationId_nonempty lineage empty.1
    rw [OutboxEventFields.settledLineage, if_neg given]
    exact Checked.make_of_valid normal
  have valid : firstFailure e.settled.checks = none :=
    OutboxEventFields.checks_pass.mpr ⟨identity, normal, times, lease, status, payload⟩
  refine ⟨⟨e.settled, valid⟩, ?_, rfl⟩
  simp only [OutboxEventRecord.create]
  refine Except.seq_returns.mpr ⟨(), validate_eq_ok.mpr identity, ?_⟩
  refine Except.seq_returns.mpr ⟨_, settledLineage, ?_⟩
  exact Checked.make_of_valid valid

/-- The constructor changes nothing but the lineage. -/
theorem create_returns {e : OutboxEventFields} {record : OutboxEventRecord}
    (run : OutboxEventRecord.create e = .ok record) : ∃ lineage, record.val = e.withLineage lineage := by
  simp only [OutboxEventRecord.create] at run
  obtain ⟨_, _, run⟩ := Except.seq_returns.mp run
  obtain ⟨lineage, _, made⟩ := Except.seq_returns.mp run
  exact ⟨lineage, Checked.make_eq_ok.mp made⟩

omit [Sha256] in
/-- In every status the first and the last failure time come together. -/
theorem failureTimes_paired (event : OutboxEventRecord) :
    event.val.firstFailedAtUtc.isNone = event.val.lastFailedAtUtc.isNone := by
  obtain ⟨_, _, _, _, status, _⟩ := OutboxEventFields.checks_pass.mp event.valid
  cases shape : event.val.status <;>
    cases first : event.val.firstFailedAtUtc <;> cases last : event.val.lastFailedAtUtc <;>
      simp [OutboxEventFields.statusChecks, shape, first, last] at status ⊢

theorem leaseOutboxEvent_succeeds (event : OutboxEventRecord) {leaseOwner leaseAttemptId : String}
    {leaseExpiresAtUtc : DateTime}
    (passed : firstFailure (leaseArgumentChecks leaseOwner leaseAttemptId leaseExpiresAtUtc) = none) :
    ∃ leased, leaseOutboxEvent event leaseOwner leaseAttemptId leaseExpiresAtUtc = .ok leased ∧
      leased.val = (event.val.leasedTo leaseOwner leaseAttemptId leaseExpiresAtUtc).settled := by
  obtain ⟨identity, lineage, times, _, _, payload⟩ := OutboxEventFields.checks_pass.mp event.valid
  have arguments := passed
  simp only [leaseArgumentChecks, firstFailure_append, firstFailure_cons, firstFailure_nil,
    requireText_passes, firstFailure_requireAwareUtc, and_true] at arguments
  obtain ⟨⟨owner, attempt⟩, utc⟩ := arguments
  obtain ⟨_, firstFailed, lastFailed, _, _, retries⟩ := OutboxEventFields.timeChecks_pass.mp times
  have valid : firstFailure
      (event.val.leasedTo leaseOwner leaseAttemptId leaseExpiresAtUtc).checks = none := by
    refine OutboxEventFields.checks_pass.mpr ⟨identity, lineage, ?_, ?_, ?_, payload⟩
    · refine OutboxEventFields.timeChecks_pass.mpr
        ⟨unset_times, firstFailed, lastFailed, unset_times, ?_, retries⟩
      intro t same
      cases same
      exact utc
    · simp [OutboxEventFields.leaseChecks, OutboxEventFields.leasedTo, owner, attempt]
    · have paired := failureTimes_paired event
      simp [OutboxEventFields.statusChecks, OutboxEventFields.leasedTo, paired]
  obtain ⟨leased, made, fields⟩ := create_of_valid valid
  refine ⟨leased, ?_, fields⟩
  simp only [leaseOutboxEvent]
  exact Except.seq_returns.mpr ⟨(), validate_eq_ok.mpr passed, made⟩

theorem leaseOutboxEvent_returns {event leased : OutboxEventRecord}
    {leaseOwner leaseAttemptId : String} {leaseExpiresAtUtc : DateTime}
    (run : leaseOutboxEvent event leaseOwner leaseAttemptId leaseExpiresAtUtc = .ok leased) :
    ∃ lineage, leased.val =
      (event.val.leasedTo leaseOwner leaseAttemptId leaseExpiresAtUtc).withLineage lineage := by
  simp only [leaseOutboxEvent] at run
  obtain ⟨_, _, made⟩ := Except.seq_returns.mp run
  exact create_returns made

theorem markOutboxEventPublished_succeeds (event : OutboxEventRecord) {publishedAtUtc : DateTime}
    (utc : publishedAtUtc.isUtc = true) :
    ∃ updated, markOutboxEventPublished event publishedAtUtc = .ok updated := by
  obtain ⟨identity, lineage, times, _, _, payload⟩ := OutboxEventFields.checks_pass.mp event.valid
  obtain ⟨_, firstFailed, lastFailed, _, _, retries⟩ := OutboxEventFields.timeChecks_pass.mp times
  have valid : firstFailure (event.val.publishedAt publishedAtUtc).checks = none := by
    refine OutboxEventFields.checks_pass.mpr ⟨identity, lineage, ?_, ?_, ?_, payload⟩
    · refine OutboxEventFields.timeChecks_pass.mpr
        ⟨?_, firstFailed, lastFailed, unset_times, unset_times, retries⟩
      intro t same
      cases same
      exact utc
    · simp [OutboxEventFields.leaseChecks, OutboxEventFields.publishedAt]
    · have paired := failureTimes_paired event
      simp [OutboxEventFields.statusChecks, OutboxEventFields.publishedAt, paired]
  obtain ⟨updated, made, _⟩ := create_of_valid valid
  refine ⟨updated, ?_⟩
  simp only [markOutboxEventPublished]
  exact Except.seq_returns.mpr
    ⟨(), validate_eq_ok.mpr (firstFailure_requireAwareUtc.mpr utc), made⟩

theorem markOutboxEventPublished_returns {event updated : OutboxEventRecord}
    {publishedAtUtc : DateTime} (run : markOutboxEventPublished event publishedAtUtc = .ok updated) :
    ∃ lineage, updated.val = (event.val.publishedAt publishedAtUtc).withLineage lineage := by
  simp only [markOutboxEventPublished] at run
  obtain ⟨_, _, made⟩ := Except.seq_returns.mp run
  exact create_returns made

theorem markOutboxEventFailed_succeeds {event : OutboxEventRecord} {failureReason : String}
    {failedAtUtc : DateTime} {maxRetryCount : Int} {nextAttemptAtUtc : Option DateTime}
    (passed : firstFailure (failureArgumentChecks event failureReason failedAtUtc maxRetryCount
      nextAttemptAtUtc) = none) :
    ∃ updated, markOutboxEventFailed event failureReason failedAtUtc maxRetryCount
      nextAttemptAtUtc = .ok updated := by
  obtain ⟨identity, lineage, times, _, _, payload⟩ := OutboxEventFields.checks_pass.mp event.valid
  obtain ⟨_, firstFailed, _, _, _, retries⟩ := OutboxEventFields.timeChecks_pass.mp times
  have arguments := passed
  simp only [failureArgumentChecks, failureReasonChecks, firstFailure_append, firstFailure_cons,
    requireText_passes, firstFailure_requireAwareUtc] at arguments
  obtain ⟨⟨⟨⟨reason, _⟩, utc⟩, _⟩, attempt⟩ := arguments
  have valid : firstFailure
      (event.val.failedAt failureReason failedAtUtc maxRetryCount nextAttemptAtUtc).checks = none := by
    refine OutboxEventFields.checks_pass.mpr ⟨identity, lineage, ?_, ?_, ?_, payload⟩
    · refine OutboxEventFields.timeChecks_pass.mpr ⟨unset_times, ?_, ?_, ?_, unset_times, ?_⟩
      · intro t same
        cases first : event.val.firstFailedAtUtc with
        | none =>
            simp only [OutboxEventFields.failedAt, first, Option.getD_none,
              Option.some.injEq] at same
            exact same ▸ utc
        | some earlier =>
            simp only [OutboxEventFields.failedAt, first, Option.getD_some,
              Option.some.injEq] at same
            exact same ▸ firstFailed earlier first
      · intro t same
        cases same
        exact utc
      · intro t given
        have next : nextAttemptAtUtc = some t := given
        cases status : statusAfterFailure event.val.retryCount maxRetryCount <;>
          simp [nextAttemptChecks, next, status] at attempt
        exact attempt.1
      · have counted : (event.val.failedAt failureReason failedAtUtc maxRetryCount
            nextAttemptAtUtc).retryCount = event.val.retryCount + 1 := rfl
        omega
    · have notLeased : statusAfterFailure event.val.retryCount maxRetryCount ≠ .leased := by
        unfold statusAfterFailure
        split <;> decide
      simp [OutboxEventFields.leaseChecks, OutboxEventFields.failedAt, notLeased]
    · by_cases exhausted : maxRetryCount ≤ event.val.retryCount + 1
      · cases next : nextAttemptAtUtc with
        | none =>
            simp [OutboxEventFields.statusChecks, OutboxEventFields.failedAt, statusAfterFailure,
              exhausted, reason]
        | some t => simp [nextAttemptChecks, statusAfterFailure, exhausted, next] at attempt
      · cases next : nextAttemptAtUtc with
        | none => simp [nextAttemptChecks, statusAfterFailure, exhausted, next] at attempt
        | some t =>
            simp [OutboxEventFields.statusChecks, OutboxEventFields.failedAt, statusAfterFailure,
              exhausted, reason]
  obtain ⟨updated, made, _⟩ := create_of_valid valid
  refine ⟨updated, ?_⟩
  simp only [markOutboxEventFailed]
  exact Except.seq_returns.mpr ⟨(), validate_eq_ok.mpr passed, made⟩

theorem markOutboxEventFailed_returns {event updated : OutboxEventRecord} {failureReason : String}
    {failedAtUtc : DateTime} {maxRetryCount : Int} {nextAttemptAtUtc : Option DateTime}
    (run : markOutboxEventFailed event failureReason failedAtUtc maxRetryCount nextAttemptAtUtc =
      .ok updated) :
    ∃ lineage, updated.val = (event.val.failedAt failureReason failedAtUtc maxRetryCount
      nextAttemptAtUtc).withLineage lineage := by
  simp only [markOutboxEventFailed] at run
  obtain ⟨_, _, made⟩ := Except.seq_returns.mp run
  exact create_returns made

end Records

end LotusIdea

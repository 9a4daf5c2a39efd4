import LotusIdea.Outbox.Events
import LotusIdea.Foundation.OrderedDict
import Mathlib.Data.List.Sort

/-!
# Outbox delivery and dead-letter recovery

`outbox/delivery.py` and `outbox/recovery.py` over the in-memory dictionaries.
An operation returns its answer or the exception it raises, together with the
dictionaries as it leaves them.
-/

set_option autoImplicit false

namespace LotusIdea

inductive OutboxDeliveryDecision where
  | accepted
  | notFound
  | alreadyPublished
  | deadLettered
  | leaseLost
  deriving DecidableEq, Repr

variable [Sha256]

abbrev OutboxEvents := Dict String OutboxEventRecord

structure OutboxDeliveryResult where
  decision : OutboxDeliveryDecision
  event : Option OutboxEventRecord

/-! ## Claiming -/

def outboxEventDeliveryReady (event : OutboxEventRecord) (maxRetryCount : Int)
    (evaluatedAtUtc : DateTime) : Bool :=
  event.val.status = .pending ||
    (event.val.status = .failed && event.val.retryCount < maxRetryCount &&
      event.val.nextAttemptAtUtc.any (· ≤ evaluatedAtUtc)) ||
    (event.val.status = .leased && event.val.leaseExpiresAtUtc.any (· ≤ evaluatedAtUtc))

/-- The delivery order: occurrence, then event id. -/
def deliveredBefore (a b : OutboxEventRecord) : Bool :=
  a.val.occurredAtUtc < b.val.occurredAtUtc ||
    (a.val.occurredAtUtc.instant = b.val.occurredAtUtc.instant && a.val.eventId ≤ b.val.eventId)

def outboxEventsForDelivery (events : OutboxEvents) (limit maxRetryCount : Int)
    (evaluatedAtUtc : DateTime) : Except PyError (List OutboxEventRecord) := do
  validate ([requirePositive limit "limit", requirePositive maxRetryCount "max_retry_count"] ++
    requireAwareUtc evaluatedAtUtc "evaluated_at_utc")
  return ((events.values.filter fun event =>
    outboxEventDeliveryReady event maxRetryCount evaluatedAtUtc).insertionSort
      fun a b => deliveredBefore a b).take limit.toNat

/-- The keyword arguments of `claim_outbox_events_for_delivery`. -/
structure OutboxClaimRequest where
  limit : Int
  maxRetryCount : Int
  leaseOwner : String
  leaseAttemptId : String
  claimedAtUtc : DateTime
  leaseExpiresAtUtc : DateTime

def OutboxClaimRequest.checks (c : OutboxClaimRequest) : List (Bool × PyError) :=
  [requirePositive c.limit "limit", requirePositive c.maxRetryCount "max_retry_count",
   requireText c.leaseOwner "lease_owner", requireText c.leaseAttemptId "lease_attempt_id"] ++
  requireAwareUtc c.claimedAtUtc "claimed_at_utc" ++
  requireAwareUtc c.leaseExpiresAtUtc "lease_expires_at_utc" ++
  [(decide (c.leaseExpiresAtUtc ≤ c.claimedAtUtc),
     .valueError "lease_expires_at_utc must be after claimed_at_utc")]

/-- The loop over the ready events; what was leased before an exception stays. -/
def leaseEach (c : OutboxClaimRequest) :
    List OutboxEventRecord → OutboxEvents → List OutboxEventRecord →
      Except PyError (List OutboxEventRecord) × OutboxEvents
  | [], events, claimed => (.ok claimed, events)
  | event :: rest, events, claimed =>
      match leaseOutboxEvent event c.leaseOwner c.leaseAttemptId c.leaseExpiresAtUtc with
      | .error raised => (.error raised, events)
      | .ok leased => leaseEach c rest (events.set event.val.eventId leased) (claimed ++ [leased])

def claimOutboxEventsForDelivery (events : OutboxEvents) (c : OutboxClaimRequest) :
    Except PyError (List OutboxEventRecord) × OutboxEvents :=
  match validate c.checks with
  | .error raised => (.error raised, events)
  | .ok _ =>
      match outboxEventsForDelivery events c.limit c.maxRetryCount c.claimedAtUtc with
      | .error raised => (.error raised, events)
      | .ok ready => leaseEach c ready events []

/-! ## Acknowledging -/

/-- `_terminal_outbox_delivery_result` on a present event. -/
def terminalOutboxDeliveryResult (event : OutboxEventRecord) : Option OutboxDeliveryResult :=
  if event.val.status = .published then some ⟨.alreadyPublished, some event⟩
  else if event.val.status = .deadLetter then some ⟨.deadLettered, some event⟩
  else none

def eventOwnedByDeliveryAttempt (event : OutboxEventRecord) (leaseOwner leaseAttemptId : String) :
    Bool :=
  event.val.status = .leased && event.val.leaseOwner = some leaseOwner &&
    event.val.leaseAttemptId = some leaseAttemptId

/-- What both acknowledgements do: answer for an event that the attempt does
not own, else write what `transition` makes of it. -/
def acknowledge (events : OutboxEvents) (checks : List (Bool × PyError))
    (eventId leaseOwner leaseAttemptId : String)
    (transition : OutboxEventRecord → Except PyError (OutboxDeliveryDecision × OutboxEventRecord)) :
    Except PyError OutboxDeliveryResult × OutboxEvents :=
  match validate checks with
  | .error raised => (.error raised, events)
  | .ok _ =>
      match events.get? eventId with
      | none => (.ok ⟨.notFound, none⟩, events)
      | some event =>
          match terminalOutboxDeliveryResult event with
          | some terminal => (.ok terminal, events)
          | none =>
              if eventOwnedByDeliveryAttempt event leaseOwner leaseAttemptId then
                match transition event with
                | .error raised => (.error raised, events)
                | .ok (decision, updated) =>
                    (.ok ⟨decision, some updated⟩, events.set eventId updated)
              else (.ok ⟨.leaseLost, some event⟩, events)

structure MarkPublishedRequest where
  eventId : String
  leaseOwner : String
  leaseAttemptId : String
  publishedAtUtc : DateTime

def MarkPublishedRequest.checks (m : MarkPublishedRequest) : List (Bool × PyError) :=
  [requireText m.eventId "event_id", requireText m.leaseOwner "lease_owner",
   requireText m.leaseAttemptId "lease_attempt_id"] ++
  requireAwareUtc m.publishedAtUtc "published_at_utc"

def markOwnedOutboxEventPublished (events : OutboxEvents) (m : MarkPublishedRequest) :
    Except PyError OutboxDeliveryResult × OutboxEvents :=
  acknowledge events m.checks m.eventId m.leaseOwner m.leaseAttemptId fun event =>
    (markOutboxEventPublished event m.publishedAtUtc).map fun updated => (.accepted, updated)

/-- `failed_at_utc` is the given time or the clock's. -/
structure MarkFailedRequest where
  eventId : String
  leaseOwner : String
  leaseAttemptId : String
  failureReason : String
  failedAtUtc : DateTime
  maxRetryCount : Int := 3
  nextAttemptAtUtc : Option DateTime := none

def MarkFailedRequest.checks (m : MarkFailedRequest) : List (Bool × PyError) :=
  [requireText m.eventId "event_id", requireText m.leaseOwner "lease_owner",
   requireText m.leaseAttemptId "lease_attempt_id"] ++
  requireAwareUtc m.failedAtUtc "failed_at_utc"

def retryBackoffBaseSeconds : Nat := 60

def retryBackoffMaxSeconds : Nat := 900

def retryDelaySeconds (retryCount : Int) : Nat :=
  min (retryBackoffBaseSeconds * 2 ^ retryCount.toNat) retryBackoffMaxSeconds

def nextOutboxRetryAttemptAtUtc (event : OutboxEventRecord) (failedAtUtc : DateTime)
    (maxRetryCount : Int) : Except PyError (Option DateTime) := do
  validate (requireAwareUtc failedAtUtc "failed_at_utc" ++
    [requirePositive maxRetryCount "max_retry_count"])
  if maxRetryCount ≤ event.val.retryCount + 1 then
    return none
  else
    return some (failedAtUtc.shift (retryDelaySeconds event.val.retryCount * 1000000))

/-- `retry_at`: the given next attempt, or the backoff's. -/
def MarkFailedRequest.retryAt (m : MarkFailedRequest) (event : OutboxEventRecord) :
    Except PyError (Option DateTime) :=
  match m.nextAttemptAtUtc with
  | some given => .ok (some given)
  | none => nextOutboxRetryAttemptAtUtc event m.failedAtUtc m.maxRetryCount

/-- The failure written for an owned event. -/
def failOwned (m : MarkFailedRequest) (event : OutboxEventRecord) :
    Except PyError (OutboxDeliveryDecision × OutboxEventRecord) := do
  let retryAt ← m.retryAt event
  let updated ← markOutboxEventFailed event m.failureReason m.failedAtUtc m.maxRetryCount retryAt
  return (if updated.val.status = .deadLetter then .deadLettered else .accepted, updated)

def markOwnedOutboxEventFailed (events : OutboxEvents) (m : MarkFailedRequest) :
    Except PyError OutboxDeliveryResult × OutboxEvents :=
  acknowledge events m.checks m.eventId m.leaseOwner m.leaseAttemptId (failOwned m)

/-! ## Recovery -/

inductive OutboxRecoveryDecision where
  | accepted
  | replayed
  | conflict
  | notFound
  | notDeadLettered
  | ineligible
  | recoveryLimitReached
  | leaseConflict
  deriving DecidableEq, Repr

structure OutboxRecoveryAuditRecord where
  recoveryId : String
  eventId : String
  supportReference : String
  idempotencyFingerprint : String
  requestFingerprint : String
  actorSubject : String
  reason : String
  changeReference : String
  requestedAtUtc : DateTime
  leaseOwner : String
  leaseAttemptId : String
  leaseExpiresAtUtc : DateTime
  originalRetryCount : Int
  originalFailureReason : String
  originalFirstFailedAtUtc : DateTime
  originalLastFailedAtUtc : DateTime

abbrev OutboxRecoveryRecords := Dict String OutboxRecoveryAuditRecord

structure OutboxRecoveryClaimResult where
  decision : OutboxRecoveryDecision
  event : Option OutboxEventRecord
  auditRecord : Option OutboxRecoveryAuditRecord
  blocker : Option String := none

/-- `payload_fingerprint`. -/
def payloadFingerprint (payload : Json) : String := Sha256.hexdigest 64 payload.dumps

def outboxDeadLetterSupportReference (eventId : String) : String :=
  "outbox-dlq-" ++ Sha256.hexdigest 24 eventId

def outboxRecoveryEligibilityBlocker (eventType schemaVersion : String) : Option String :=
  if !supportedOutboxEventTypes.contains eventType then some "unsupported_event_family"
  else if schemaVersion ≠ outboxEventSchemaVersion then some "unsupported_schema_version"
  else none

/-- The keyword arguments of `claim_dead_letter_for_recovery`. -/
structure OutboxRecoveryRequest where
  supportReference : String
  idempotencyKey : String
  requestPayload : Json
  actorSubject : String
  reason : String
  changeReference : String
  requestedAtUtc : DateTime
  leaseOwner : String
  leaseAttemptId : String
  leaseExpiresAtUtc : DateTime
  maxRecoveryAttempts : Int := 1

namespace OutboxRecoveryRequest

def idempotencyFingerprint (r : OutboxRecoveryRequest) : String :=
  Sha256.hexdigest 64 r.idempotencyKey

/-- The checks made before anything is looked up. -/
def entryChecks (r : OutboxRecoveryRequest) : List (Bool × PyError) :=
  [requirePositive r.maxRecoveryAttempts "max_recovery_attempts",
   requireText r.supportReference "support_reference"]

/-- What `build_outbox_recovery_audit_record` asks of the request. -/
def auditArgumentChecks (r : OutboxRecoveryRequest) : List (Bool × PyError) :=
  [requireText r.idempotencyKey "idempotency_key", requireText r.actorSubject "actor_subject",
   requireText r.reason "reason", requireText r.changeReference "change_reference",
   requireText r.leaseOwner "lease_owner", requireText r.leaseAttemptId "lease_attempt_id"] ++
  requireAwareUtc r.requestedAtUtc "requested_at_utc" ++
  requireAwareUtc r.leaseExpiresAtUtc "lease_expires_at_utc" ++
  [(decide (r.leaseExpiresAtUtc ≤ r.requestedAtUtc),
     .valueError "lease_expires_at_utc must be after requested_at_utc")]

def auditChecks (r : OutboxRecoveryRequest) (event : OutboxEventRecord) : List (Bool × PyError) :=
  (decide (event.val.status ≠ .deadLetter),
    .valueError "outbox recovery requires a dead-lettered event") :: r.auditArgumentChecks

def recoveryId (r : OutboxRecoveryRequest) (eventId : String) : String :=
  "recovery_" ++ Sha256.hexdigest 32 (eventId ++ ":" ++ r.idempotencyFingerprint)

end OutboxRecoveryRequest

def buildOutboxRecoveryAuditRecord (event : OutboxEventRecord) (r : OutboxRecoveryRequest) :
    Except PyError OutboxRecoveryAuditRecord := do
  validate (r.auditChecks event)
  match event.val.failureReason, event.val.firstFailedAtUtc, event.val.lastFailedAtUtc with
  | some failureReason, some firstFailedAtUtc, some lastFailedAtUtc =>
      return {
        recoveryId := r.recoveryId event.val.eventId
        eventId := event.val.eventId
        supportReference := outboxDeadLetterSupportReference event.val.eventId
        idempotencyFingerprint := r.idempotencyFingerprint
        requestFingerprint := payloadFingerprint r.requestPayload
        actorSubject := r.actorSubject
        reason := r.reason
        changeReference := r.changeReference
        requestedAtUtc := r.requestedAtUtc
        leaseOwner := r.leaseOwner
        leaseAttemptId := r.leaseAttemptId
        leaseExpiresAtUtc := r.leaseExpiresAtUtc
        originalRetryCount := event.val.retryCount
        originalFailureReason := failureReason
        originalFirstFailedAtUtc := firstFailedAtUtc
        originalLastFailedAtUtc := lastFailedAtUtc }
  | _, _, _ => throw .assertionError

def recoveryAttemptCount (records : OutboxRecoveryRecords) (eventId : String) : Nat :=
  records.values.countP fun record => record.eventId = eventId

/-- `_blocked_recovery_claim`. -/
def blockedRecoveryClaim (event : OutboxEventRecord) (records : OutboxRecoveryRecords)
    (maxRecoveryAttempts : Int) : Option OutboxRecoveryClaimResult :=
  if event.val.status = .leased then
    some ⟨.leaseConflict, some event, none, some "recovery_lease_conflict"⟩
  else if event.val.status ≠ .deadLetter then
    some ⟨.notDeadLettered, some event, none, some "event_not_dead_lettered"⟩
  else
    match outboxRecoveryEligibilityBlocker event.val.eventType event.val.schemaVersion with
    | some blocker => some ⟨.ineligible, some event, none, some blocker⟩
    | none =>
        if maxRecoveryAttempts ≤ recoveryAttemptCount records event.val.eventId then
          some ⟨.recoveryLimitReached, some event, none, some "recovery_attempt_limit_reached"⟩
        else none

structure OutboxState where
  events : OutboxEvents
  recoveryRecords : OutboxRecoveryRecords

/-- `_accept_recovery_claim`. -/
def acceptRecoveryClaim (state : OutboxState) (event : OutboxEventRecord)
    (r : OutboxRecoveryRequest) : Except PyError OutboxRecoveryClaimResult × OutboxState :=
  match buildOutboxRecoveryAuditRecord event r with
  | .error raised => (.error raised, state)
  | .ok auditRecord =>
      match leaseOutboxEvent event r.leaseOwner r.leaseAttemptId r.leaseExpiresAtUtc with
      | .error raised => (.error raised, state)
      | .ok leased =>
          (.ok ⟨.accepted, some leased, some auditRecord, none⟩,
            { events := state.events.set event.val.eventId leased
              recoveryRecords := state.recoveryRecords.set auditRecord.recoveryId auditRecord })

def claimDeadLetterForRecovery (state : OutboxState) (r : OutboxRecoveryRequest) :
    Except PyError OutboxRecoveryClaimResult × OutboxState :=
  match validate r.entryChecks with
  | .error raised => (.error raised, state)
  | .ok _ =>
      match state.recoveryRecords.values.find? fun record =>
          record.idempotencyFingerprint = r.idempotencyFingerprint with
      | some existing =>
          if existing.requestFingerprint = payloadFingerprint r.requestPayload then
            (.ok ⟨.replayed, state.events.get? existing.eventId, some existing, none⟩, state)
          else
            (.ok ⟨.conflict, state.events.get? existing.eventId, some existing,
              some "idempotency_conflict"⟩, state)
      | none =>
          match state.events.values.find? fun event =>
              outboxDeadLetterSupportReference event.val.eventId = r.supportReference with
          | none => (.ok ⟨.notFound, none, none, some "dead_letter_not_found"⟩, state)
          | some event =>
              match blockedRecoveryClaim event state.recoveryRecords r.maxRecoveryAttempts with
              | some blocked => (.ok blocked, state)
              | none => acceptRecoveryClaim state event r

end LotusIdea

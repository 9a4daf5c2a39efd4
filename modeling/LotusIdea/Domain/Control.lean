import LotusIdea.Domain.Vocabulary
import LotusIdea.Foundation.CanonicalJson
import LotusIdea.Foundation.Digest

/-!
# Times, keys and audit events of a mutation

`control_time.py`, `idempotency.py` and `audit.py`: what every governed mutation
asks of its observed time, how its idempotency key is stored, and the audit
event it leaves.
-/

set_option autoImplicit false

namespace LotusIdea

/-! ## Observed times -/

inductive AcceptanceTimeSource where
  | serverAccepted
  | legacyObservedTimeAssumed
  deriving DecidableEq, Repr

/-- The skews are in microseconds. -/
structure ObservedTimePolicy where
  policyId : String
  maximumPastSkew : Int
  maximumFutureSkew : Int

def minutes (n : Int) : Int := n * 60 * 1000000

def hours (n : Int) : Int := n * 60 * minutes 1

def reviewDecisionTimePolicy : ObservedTimePolicy :=
  ⟨"idea-review-decision-observed-time-v1", hours 24, minutes 5⟩

def feedbackTimePolicy : ObservedTimePolicy :=
  ⟨"idea-feedback-observed-time-v1", hours 24, minutes 5⟩

def conversionIntentTimePolicy : ObservedTimePolicy :=
  ⟨"idea-conversion-intent-observed-time-v1", hours 24, minutes 5⟩

def downstreamOutcomeTimePolicy : ObservedTimePolicy :=
  ⟨"idea-downstream-outcome-observed-time-v1", hours (30 * 24), minutes 5⟩

def presentationTimePolicy : ObservedTimePolicy :=
  ⟨"idea-presentation-observed-time-v1", minutes 15, minutes 5⟩

def lifecycleTransitionTimePolicy : ObservedTimePolicy :=
  ⟨"idea-lifecycle-transition-observed-time-v1", hours 24, minutes 5⟩

/-- `_require_aware_utc` of `control_time.py`. -/
def requireUtcOffset (value : DateTime) (fieldName : String) : List (Bool × PyError) :=
  [requireAware value fieldName,
   (!value.isUtc, .valueError (fieldName ++ " must use UTC offset +00:00"))]

/-- `require_observed_time_within_policy`. -/
def observedTimeChecks (observedAtUtc acceptedAtUtc : DateTime) (policy : ObservedTimePolicy) :
    List (Bool × PyError) :=
  requireUtcOffset observedAtUtc "observed_at_utc" ++
  requireUtcOffset acceptedAtUtc "accepted_at_utc" ++
  [(decide (observedAtUtc < acceptedAtUtc.shift (-policy.maximumPastSkew)),
     .observedTimeSkew policy.policyId),
   (decide (acceptedAtUtc.shift policy.maximumFutureSkew < observedAtUtc),
     .observedTimeSkew policy.policyId)]

theorem utc_of_observedTimeChecks {observedAtUtc acceptedAtUtc : DateTime}
    {policy : ObservedTimePolicy}
    (passed : firstFailure (observedTimeChecks observedAtUtc acceptedAtUtc policy) = none) :
    acceptedAtUtc.isUtc = true := by
  simp only [observedTimeChecks, requireUtcOffset, firstFailure_append, firstFailure_cons,
    Bool.not_eq_false'] at passed
  exact passed.1.2.2.1

/-! ## Idempotency -/

inductive IdempotencyDecision where
  | accepted
  | replayed
  | conflict
  deriving DecidableEq, Repr

def IdempotencyDecision.value : IdempotencyDecision → String
  | .accepted => "accepted"
  | .replayed => "replayed"
  | .conflict => "conflict"

structure IdempotencyRecord where
  key : String
  payloadHash : String
  deriving DecidableEq, Repr

/-- The length of the tenant makes the identity injective. -/
def tenantStorageKey (tenantId idempotencyKey : String) : String :=
  "tenant:" ++ toString tenantId.toList.length ++ ":" ++ tenantId ++ idempotencyKey

def tenantScopedIdempotencyIdentity (tenantId idempotencyKey : String) :
    Except PyError String := do
  validate
    [(PyText.isBlank tenantId, .valueError "tenant_id must be non-empty"),
     (PyText.isBlank idempotencyKey, .valueError "idempotency_key must be non-empty")]
  return tenantStorageKey tenantId idempotencyKey

def systemStorageKey (idempotencyKey : String) : String := "system:" ++ idempotencyKey

def systemScopedIdempotencyIdentity (idempotencyKey : String) : Except PyError String := do
  validate [(PyText.isBlank idempotencyKey, .valueError "idempotency_key must be non-empty")]
  return systemStorageKey idempotencyKey

section Idempotency
variable [Sha256]

/-- `payload_fingerprint` of `idempotency.py`. -/
def idempotencyPayloadHash (payload : Json) : String := Sha256.hexdigest 64 payload.dumps

def evaluateIdempotency (key : String) (payload : Json) (existing : Option IdempotencyRecord) :
    IdempotencyDecision × IdempotencyRecord :=
  let record : IdempotencyRecord := ⟨key, idempotencyPayloadHash payload⟩
  match existing with
  | none => (.accepted, record)
  | some existing =>
      if existing.key = key ∧ existing.payloadHash = record.payloadHash then (.replayed, existing)
      else (.conflict, existing)

end Idempotency

/-! ## Audit events -/

def forbiddenAttributeKeys : List String :=
  ["account_id", "client_id", "client_name", "holding_id", "portfolio_id", "request_body",
   "response_body"]

structure AuditEventFields where
  eventType : String
  actorSubject : String
  outcome : String
  occurredAtUtc : DateTime
  attributes : List (String × String)
  deriving DecidableEq

namespace AuditEventFields

def leakedKeys (a : AuditEventFields) : List String :=
  forbiddenAttributeKeys.filter fun key => (a.attributes.map Prod.fst).contains key

def checks (a : AuditEventFields) : List (Bool × PyError) :=
  [requireText a.eventType "event_type", requireText a.actorSubject "actor_subject",
   requireText a.outcome "outcome", requireAware a.occurredAtUtc "occurred_at_utc",
   (!a.leakedKeys.isEmpty,
     .valueError ("Audit event attributes contain sensitive keys: " ++
       String.intercalate ", " a.leakedKeys))]

end AuditEventFields

abbrev AuditEvent := Checked AuditEventFields.checks

def AuditEvent.create (a : AuditEventFields) : Except PyError AuditEvent :=
  Checked.make AuditEventFields.checks a

/-- The first attribute of an audit event under a key. -/
def AuditEvent.attribute? (e : AuditEvent) (key : String) : Option String :=
  e.val.attributes.lookup key

end LotusIdea

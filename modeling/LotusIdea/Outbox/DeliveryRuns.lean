import LotusIdea.Outbox.DeliverySafety

/-!
# The recovery limit, and delivery safety of a run

A recovery record is stored under a digest of the event and of the request's
idempotency fingerprint, so distinct accepted recoveries leave distinct records
and the records of an event count its accepted recoveries.
-/

set_option autoImplicit false

namespace LotusIdea

/-- Two texts with the same separator before a part that has none agree in that
part. -/
theorem lastPart_eq {separator : Char} {a b f g : List Char}
    (same : a ++ separator :: f = b ++ separator :: g)
    (inF : separator ∉ f) (inG : separator ∉ g) : f = g := by
  rcases List.append_eq_append_iff.mp same with ⟨more, _, rest⟩ | ⟨more, _, rest⟩
  · cases more with
    | nil => exact (List.cons.inj rest).2
    | cons c tail =>
        rw [List.cons_append, List.cons.injEq] at rest
        exact absurd (rest.2 ▸ List.mem_append_right _ List.mem_cons_self) inF
  · cases more with
    | nil => exact (List.cons.inj rest).2.symm
    | cons c tail =>
        rw [List.cons_append, List.cons.injEq] at rest
        exact absurd (rest.2 ▸ List.mem_append_right _ List.mem_cons_self) inG

section Runs
variable [Sha256]

theorem hexText_no_colon (hex : Sha256.HexText) (digits : Nat) (text : String) :
    ':' ∉ (Sha256.hexdigest digits text).toList := by
  intro member
  have all := List.all_eq_true.mp (hex digits text) _ member
  revert all
  decide

/-- Records stand under the digest of their own event and fingerprint. -/
def RecoveriesKeyed (records : OutboxRecoveryRecords) : Prop :=
  ∀ key record, records.get? key = some record →
    key = "recovery_" ++
      Sha256.hexdigest 32 (record.eventId ++ ":" ++ record.idempotencyFingerprint) ∧
    ':' ∉ record.idempotencyFingerprint.toList

theorem buildAudit_returns {event : OutboxEventRecord} {r : OutboxRecoveryRequest}
    {auditRecord : OutboxRecoveryAuditRecord}
    (built : buildOutboxRecoveryAuditRecord event r = .ok auditRecord) :
    auditRecord.recoveryId = r.recoveryId event.val.eventId ∧
      auditRecord.eventId = event.val.eventId ∧
      auditRecord.idempotencyFingerprint = r.idempotencyFingerprint := by
  simp only [buildOutboxRecoveryAuditRecord] at built
  obtain ⟨_, _, built⟩ := Except.seq_returns.mp built
  split at built
  · cases built
    exact ⟨rfl, rfl, rfl⟩
  · cases built

/-- No record of another fingerprint occupies the key of a recovery. -/
theorem recoveryId_fresh (hex : Sha256.HexText) (free : Sha256.CollisionFree 32)
    {records : OutboxRecoveryRecords} (keyed : RecoveriesKeyed records)
    {r : OutboxRecoveryRequest}
    (unseen : ∀ record ∈ records.values, record.idempotencyFingerprint ≠ r.idempotencyFingerprint)
    (eventId : String) : records.get? (r.recoveryId eventId) = none := by
  cases stored : records.get? (r.recoveryId eventId) with
  | none => rfl
  | some record =>
      obtain ⟨key, noColon⟩ := keyed _ record stored
      have texts := free (String.append_right_inj _ |>.mp key)
      have lists := congrArg String.toList texts
      simp only [String.toList_append, List.append_assoc] at lists
      have ownColon := hexText_no_colon hex 64 r.idempotencyKey
      have parts := lastPart_eq lists ownColon noColon
      exact absurd (String.toList_inj.mp parts).symm
        (unseen record (Dict.mem_values_of_get? stored))

/-- What a call does to the recovery records: nothing, or one more record for
the event it revives, below the limit. -/
theorem step_records (hex : Sha256.HexText) (free : Sha256.CollisionFree 32) {s : OutboxState}
    (keyed : RecoveriesKeyed s.recoveryRecords) (call : OutboxCall) :
    ((s.step call).recoveryRecords = s.recoveryRecords ∧
      ∀ id, acceptsRecovery (s.perform call).1 id = false) ∨
    ∃ r auditRecord, call = .recover r ∧
      s.recoveryRecords.get? auditRecord.recoveryId = none ∧
      (s.step call).recoveryRecords =
        s.recoveryRecords.set auditRecord.recoveryId auditRecord ∧
      auditRecord.recoveryId = "recovery_" ++ Sha256.hexdigest 32
        (auditRecord.eventId ++ ":" ++ auditRecord.idempotencyFingerprint) ∧
      ':' ∉ auditRecord.idempotencyFingerprint.toList ∧
      (recoveryAttemptCount s.recoveryRecords auditRecord.eventId : Int) < r.maxRecoveryAttempts ∧
      ∀ id, acceptsRecovery (s.perform call).1 id = decide (auditRecord.eventId = id) := by
  have untold : ∀ answer : Except PyError OutboxDeliveryResult, ∀ id,
      acceptsRecovery (answer.map OutboxAnswer.delivery) id = false := by
    intro answer id
    cases answer <;> rfl
  cases call with
  | claim c =>
      refine Or.inl ⟨rfl, ?_⟩
      intro id
      simp only [OutboxState.perform]
      cases (claimOutboxEventsForDelivery s.events c).1 <;> rfl
  | markPublished m => exact Or.inl ⟨rfl, fun id => untold _ id⟩
  | markFailed m => exact Or.inl ⟨rfl, fun id => untold _ id⟩
  | recover r =>
      rcases recover_cases s r with ⟨same, refused⟩ | ⟨event, auditRecord, leased, _, _, unseen,
        below, built, moved, accepted⟩
      · exact Or.inl ⟨by simp only [OutboxState.step, OutboxState.perform, same], refused⟩
      · obtain ⟨recoveryId, eventId, fingerprint⟩ := buildAudit_returns built
        refine Or.inr ⟨r, auditRecord, rfl, ?_, ?_, ?_, ?_, ?_, ?_⟩
        · rw [recoveryId]
          exact recoveryId_fresh hex free keyed unseen _
        · simp only [OutboxState.step, OutboxState.perform, accepted]
        · rw [recoveryId, eventId, fingerprint]
          rfl
        · rw [fingerprint]
          exact hexText_no_colon hex 64 _
        · rw [eventId]
          exact below
        · intro id
          simp [OutboxState.perform, accepted, Except.map, acceptsRecovery,
            leased_eventId moved, eventId]

theorem step_recoveriesKeyed (hex : Sha256.HexText) (free : Sha256.CollisionFree 32)
    {s : OutboxState} (keyed : RecoveriesKeyed s.recoveryRecords) (call : OutboxCall) :
    RecoveriesKeyed (s.step call).recoveryRecords := by
  rcases step_records hex free keyed call with ⟨same, _⟩ | ⟨r, auditRecord, _, _, written, key,
    noColon, _⟩
  · rw [same]
    exact keyed
  · rw [written]
    exact Dict.forall_get?_set keyed ⟨key, noColon⟩

/-- How many recoveries of an event a run accepts. -/
def acceptedRecoveries (id : String) : OutboxState → List OutboxCall → Nat
  | _, [] => 0
  | s, call :: rest =>
      (if acceptsRecovery (s.perform call).1 id then 1 else 0) +
        acceptedRecoveries id (s.step call) rest

/-- The limit a recovery request works under. -/
def OutboxCall.WithinLimit (maxRecoveryAttempts : Int) : OutboxCall → Prop
  | .recover r => r.maxRecoveryAttempts ≤ maxRecoveryAttempts
  | _ => True

theorem step_counted (hex : Sha256.HexText) (free : Sha256.CollisionFree 32) {s : OutboxState}
    (keyed : RecoveriesKeyed s.recoveryRecords) {call : OutboxCall} {limit : Int}
    (within : call.WithinLimit limit) (id : String) :
    recoveryAttemptCount (s.step call).recoveryRecords id =
      recoveryAttemptCount s.recoveryRecords id +
        (if acceptsRecovery (s.perform call).1 id then 1 else 0) ∧
    (acceptsRecovery (s.perform call).1 id = true →
      (recoveryAttemptCount s.recoveryRecords id : Int) < limit) := by
  rcases step_records hex free keyed call with ⟨same, refused⟩ | ⟨r, auditRecord, isRecovery,
    fresh, written, _, _, below, told⟩
  · simp [same, refused id]
  · subst isRecovery
    have bound : r.maxRecoveryAttempts ≤ limit := within
    rw [written, told id]
    by_cases here : auditRecord.eventId = id
    · subst here
      refine ⟨?_, fun _ => lt_of_lt_of_le below bound⟩
      simp [recoveryAttemptCount, Dict.values_set_of_fresh auditRecord fresh]
    · simp [recoveryAttemptCount, Dict.values_set_of_fresh auditRecord fresh, here]

theorem acceptedRecoveries_bounded (hex : Sha256.HexText) (free : Sha256.CollisionFree 32)
    {s : OutboxState} (keyed : RecoveriesKeyed s.recoveryRecords) {calls : List OutboxCall}
    {limit : Int} (within : ∀ call ∈ calls, call.WithinLimit limit) (id : String)
    (started : (recoveryAttemptCount s.recoveryRecords id : Int) ≤ limit) :
    (recoveryAttemptCount s.recoveryRecords id + acceptedRecoveries id s calls : Int) ≤ limit := by
  induction calls generalizing s with
  | nil => simpa [acceptedRecoveries] using started
  | cons call rest ih =>
      obtain ⟨counted, below⟩ := step_counted hex free keyed
        (within call List.mem_cons_self) id
      have stepped : (recoveryAttemptCount (s.step call).recoveryRecords id : Int) ≤ limit := by
        rw [counted]
        split
        · rename_i accepted
          have room := below accepted
          push_cast
          omega
        · simpa using started
      have later := ih (step_recoveriesKeyed hex free keyed call)
        (fun c member => within c (List.mem_cons_of_mem _ member)) stepped
      rw [counted] at later
      simp only [acceptedRecoveries]
      push_cast at later ⊢
      omega

end Runs

/-! ## A lease that is taken over, a dead letter and its recovery -/

/-- The SHA-256 digests of the texts that the sample recovery hashes. -/
@[reducible] def outboxDigestTable : List (String × String) :=
  [("evt-1",
     "7b409f932d2c88e97f0c17676c8420d3ea0dab6edb150a89b5684a8ad6d6c4c7"),
   ("recover-1",
     "f08558e2b892547da7e68d80b025700d9a9ff619f2e69810a50b7537f52ed616"),
   ("\x7b\"action\":\"recover\"\x7d",
     "0de664fef22b534a8a6f6b716c5f11ee88d2ada319677b1171c62996d84f2380"),
   ("evt-1:f08558e2b892547da7e68d80b025700d9a9ff619f2e69810a50b7537f52ed616",
     "396935262feacbb542c44fb4607bb20de8f988094c62beb534017b40c834d0ed")]

def sampleEvent : OutboxEventRecord where
  val :=
    { eventId := "evt-1"
      eventType := "idea.candidate.persisted.v1"
      aggregateType := "idea_candidate"
      aggregateId := "candidate-1"
      schemaVersion := "v1"
      payload := [("candidate_family", .text "high_cash")]
      occurredAtUtc := .utc 0
      correlationId := "corr-1"
      traceId := "trace-1" }
  valid := by decide +kernel

def sampleEvents : OutboxEvents := Dict.empty.set "evt-1" sampleEvent

theorem sampleEvents_keyed : sampleEvents.Keyed := by
  refine Dict.forall_get?_set ?_ rfl
  intro id event stored
  simp at stored

def sampleLease (worker : String) (claimedAt expiresAt : Int) : OutboxCall :=
  .claim
    { limit := 5
      maxRetryCount := 3
      leaseOwner := worker
      leaseAttemptId := worker ++ "-attempt"
      claimedAtUtc := .utc claimedAt
      leaseExpiresAtUtc := .utc expiresAt }

def samplePublish (worker : String) (publishedAt : Int) : OutboxCall :=
  .markPublished
    { eventId := "evt-1"
      leaseOwner := worker
      leaseAttemptId := worker ++ "-attempt"
      publishedAtUtc := .utc publishedAt }

def sampleFailure (worker : String) (failedAt : Int) : OutboxCall :=
  .markFailed
    { eventId := "evt-1"
      leaseOwner := worker
      leaseAttemptId := worker ++ "-attempt"
      failureReason := "broker unreachable"
      failedAtUtc := .utc failedAt
      maxRetryCount := 1 }

def sampleRecovery : OutboxCall :=
  .recover
    { supportReference := "outbox-dlq-7b409f932d2c88e97f0c1767"
      idempotencyKey := "recover-1"
      requestPayload := .obj [("action", .str "recover")]
      actorSubject := "operator-1"
      reason := "broker restored"
      changeReference := "change-1"
      requestedAtUtc := .utc 40
      leaseOwner := "operator"
      leaseAttemptId := "operator-attempt"
      leaseExpiresAtUtc := .utc 60 }

/-- One worker's lease expires, the next worker exhausts the event, an operator
revives it and publishes it. -/
def sampleCalls : List OutboxCall :=
  [sampleLease "worker-a" 0 10, sampleLease "worker-b" 20 30, sampleFailure "worker-b" 25,
   sampleRecovery, samplePublish "operator" 50]

section Sample

local instance outboxSha256 : Sha256 := Sha256.extended outboxDigestTable

/-- What an acknowledgement is told. -/
def acknowledgement : Except PyError OutboxAnswer → Option OutboxDeliveryDecision
  | .ok (.delivery result) => some result.decision
  | _ => none

end Sample

end LotusIdea

import LotusIdea.Outbox.Delivery

/-!
# A failed delivery in the table and in memory

`mark_outbox_event_failed` of `postgres_delivery.py`, one UPDATE on the event's row,
beside `mark_owned_outbox_event_failed` of the dictionary.  The two differ in what
they validate before they look at the event, in the default of the next attempt and
in a next attempt that is given for the attempt that exhausts the event.
-/

set_option autoImplicit false

namespace LotusIdea

section Stores
variable [Sha256]

/-! ## The statement -/

/-- The rows of `idea_outbox_event` under their primary key. -/
abbrev OutboxRows := Dict String OutboxEventFields

inductive OutboxUpdateError where
  | raised (error : PyError)
  | integerOutOfRange

/-- The largest value of an INTEGER column. -/
def integerColumnMax : Int := 2147483647

def outboxEventFromRow (row : OutboxEventFields) : Except OutboxUpdateError OutboxEventRecord :=
  (OutboxEventRecord.create row).mapError .raised

namespace MarkFailedRequest

/-- `next_attempt_at_utc or failed_at + timedelta(seconds=60)`. -/
def tableRetryAt (m : MarkFailedRequest) : DateTime :=
  m.nextAttemptAtUtc.getD (m.failedAtUtc.shift 60000000)

/-- `_validate_failure`. -/
def tableChecks (m : MarkFailedRequest) : List (Bool × PyError) :=
  [requireText m.eventId "event_id", requireText m.leaseOwner "lease_owner",
   requireText m.leaseAttemptId "lease_attempt_id"] ++
  failureReasonChecks m.failureReason ++ requireAwareUtc m.failedAtUtc "failed_at_utc" ++
  [requirePositive m.maxRetryCount "max_retry_count"] ++
  requireAwareUtc m.tableRetryAt "next_attempt_at_utc" ++
  [(decide (m.tableRetryAt ≤ m.failedAtUtc),
    .valueError "next_attempt_at_utc must be after failed_at_utc")]

end MarkFailedRequest

/-- The WHERE clause besides the primary key. -/
def OutboxEventFields.leasedBy (row : OutboxEventFields) (leaseOwner leaseAttemptId : String) :
    Bool :=
  row.status = .leased && row.leaseOwner = some leaseOwner &&
    row.leaseAttemptId = some leaseAttemptId

/-- The SET clause. -/
def OutboxEventFields.failedBy (row : OutboxEventFields) (m : MarkFailedRequest) :
    OutboxEventFields :=
  { row with
    retryCount := row.retryCount + 1
    status := if m.maxRetryCount ≤ row.retryCount + 1 then .deadLetter else .failed
    publishedAtUtc := none
    failureReason := some m.failureReason
    firstFailedAtUtc := some (row.firstFailedAtUtc.getD m.failedAtUtc)
    lastFailedAtUtc := some m.failedAtUtc
    nextAttemptAtUtc := if m.maxRetryCount ≤ row.retryCount + 1 then none else some m.tableRetryAt
    leaseOwner := none
    leaseAttemptId := none
    leaseExpiresAtUtc := none }

/-- The row that the UPDATE returns, if its WHERE clause finds one. -/
def updateFailedRow (rows : OutboxRows) (m : MarkFailedRequest) :
    Except OutboxUpdateError (Option OutboxEventFields) :=
  match rows.get? m.eventId with
  | none => .ok none
  | some row =>
      if row.leasedBy m.leaseOwner m.leaseAttemptId then
        if integerColumnMax < row.retryCount + 1 then .error .integerOutOfRange
        else .ok (some (row.failedBy m))
      else .ok none

/-- `_unowned_outbox_delivery_result`. -/
def unownedOutboxDeliveryResult (rows : OutboxRows) (eventId : String) :
    Except OutboxUpdateError OutboxDeliveryResult :=
  match rows.get? eventId with
  | none => .ok ⟨.notFound, none⟩
  | some row => do
      let event ← outboxEventFromRow row
      let decision :=
        if event.val.status = .published then .alreadyPublished
        else if event.val.status = .deadLetter then .deadLettered
        else .leaseLost
      return ⟨decision, some event⟩

/-- `_failed_delivery_result`. -/
def failedDeliveryResult (rows : OutboxRows) (returned : Option OutboxEventFields)
    (eventId : String) : Except OutboxUpdateError OutboxDeliveryResult :=
  match returned with
  | none => unownedOutboxDeliveryResult rows eventId
  | some row => do
      let event ← outboxEventFromRow row
      return ⟨if event.val.status = .deadLetter then .deadLettered else .accepted, some event⟩

/-- What runs between the start of the transaction and its commit. -/
def failInTransaction (rows : OutboxRows) (m : MarkFailedRequest) :
    Except OutboxUpdateError (OutboxDeliveryResult × OutboxRows) := do
  (validate m.tableChecks).mapError .raised
  let returned ← updateFailedRow rows m
  let written := returned.elim rows fun row => rows.set m.eventId row
  let result ← failedDeliveryResult written returned m.eventId
  return (result, written)

/-- `mark_outbox_event_failed` of the table, which an exception rolls back. -/
def markTableOutboxEventFailed (rows : OutboxRows) (m : MarkFailedRequest) :
    Except OutboxUpdateError OutboxDeliveryResult × OutboxRows :=
  match failInTransaction rows m with
  | .error raised => (.error raised, rows)
  | .ok (result, written) => (.ok result, written)

/-! ## What the two are compared on -/

/-- The columns that a delivery attempt moves. -/
structure OutboxDelivery where
  status : OutboxEventStatus
  retryCount : Int
  nextAttemptAtUtc : Option DateTime
  publishedAtUtc : Option DateTime
  failureReason : Option String
  firstFailedAtUtc : Option DateTime
  lastFailedAtUtc : Option DateTime
  leaseOwner : Option String
  leaseAttemptId : Option String
  leaseExpiresAtUtc : Option DateTime
  deriving DecidableEq

def OutboxEventFields.delivery (e : OutboxEventFields) : OutboxDelivery where
  status := e.status
  retryCount := e.retryCount
  nextAttemptAtUtc := e.nextAttemptAtUtc
  publishedAtUtc := e.publishedAtUtc
  failureReason := e.failureReason
  firstFailedAtUtc := e.firstFailedAtUtc
  lastFailedAtUtc := e.lastFailedAtUtc
  leaseOwner := e.leaseOwner
  leaseAttemptId := e.leaseAttemptId
  leaseExpiresAtUtc := e.leaseExpiresAtUtc

/-- The disposition and the event that a caller is given, none when the call raises,
and what is stored afterwards. -/
structure FailureOutcome where
  disposition : Option OutboxDeliveryDecision
  returned : Option OutboxDelivery
  stored : String → Option OutboxDelivery

def failureOutcome {ε : Type} (answer : Except ε OutboxDeliveryResult)
    (stored : String → Option OutboxDelivery) : FailureOutcome where
  disposition := answer.toOption.map OutboxDeliveryResult.decision
  returned := answer.toOption.bind fun result => result.event.map fun event => event.val.delivery
  stored := stored

def OutboxRows.deliveries (rows : OutboxRows) (id : String) : Option OutboxDelivery :=
  (rows.get? id).map OutboxEventFields.delivery

def OutboxEvents.deliveries (events : OutboxEvents) (id : String) : Option OutboxDelivery :=
  (events.get? id).map fun event => event.val.delivery

def tableFailureOutcome (rows : OutboxRows) (m : MarkFailedRequest) : FailureOutcome :=
  let (answer, after) := markTableOutboxEventFailed rows m
  failureOutcome answer after.deliveries

def memoryFailureOutcome (events : OutboxEvents) (m : MarkFailedRequest) : FailureOutcome :=
  let (answer, after) := markOwnedOutboxEventFailed events m
  failureOutcome answer after.deliveries

/-- The rows hold the events of the dictionary. -/
def OutboxRows.Represents (rows : OutboxRows) (events : OutboxEvents) : Prop :=
  ∀ id, rows.get? id = (events.get? id).map fun event => event.val

/-! ## What the two validate -/

section
variable {m : MarkFailedRequest} {event : OutboxEventRecord}

omit [Sha256] in
theorem tableChecks_pass :
    firstFailure m.tableChecks = none ↔
      firstFailure m.checks = none ∧ firstFailure (failureReasonChecks m.failureReason) = none ∧
        0 < m.maxRetryCount ∧
        ∀ next, m.nextAttemptAtUtc = some next → next.isUtc = true ∧ m.failedAtUtc < next := by
  have retry (utc : m.failedAtUtc.isUtc = true) :
      (m.tableRetryAt.isUtc = true ∧ ¬ m.tableRetryAt ≤ m.failedAtUtc) ↔
        ∀ next, m.nextAttemptAtUtc = some next → next.isUtc = true ∧ m.failedAtUtc < next := by
    cases given : m.nextAttemptAtUtc with
    | none =>
        have later : ¬ m.failedAtUtc.shift 60000000 ≤ m.failedAtUtc := by
          simp only [DateTime.le_def, DateTime.shift]
          omega
        simp [MarkFailedRequest.tableRetryAt, given, utc, later]
    | some next =>
        simp [MarkFailedRequest.tableRetryAt, given, DateTime.le_def, DateTime.lt_def]
  simp only [MarkFailedRequest.tableChecks, MarkFailedRequest.checks, requirePositive,
    firstFailure_append, firstFailure_cons, firstFailure_nil, firstFailure_requireAwareUtc,
    decide_eq_false_iff_not, not_le, and_true]
  constructor
  · rintro ⟨⟨⟨⟨⟨ids, reason⟩, utc⟩, positive⟩, retryUtc⟩, later⟩
    exact ⟨⟨ids, utc⟩, reason, positive, (retry utc).mp ⟨retryUtc, later⟩⟩
  · rintro ⟨⟨ids, utc⟩, reason, positive, next⟩
    obtain ⟨retryUtc, later⟩ := (retry utc).mpr next
    exact ⟨⟨⟨⟨⟨ids, reason⟩, utc⟩, positive⟩, retryUtc⟩, later⟩

/-- The next attempt that the dictionary stores with the failure. -/
def MarkFailedRequest.memoryRetryAt (m : MarkFailedRequest) (event : OutboxEventRecord) :
    Option DateTime :=
  match m.nextAttemptAtUtc with
  | some given => some given
  | none =>
      if m.maxRetryCount ≤ event.val.retryCount + 1 then none
      else some (m.failedAtUtc.shift (retryDelaySeconds event.val.retryCount * 1000000))

omit [Sha256] in
theorem retryAt_eq (utc : m.failedAtUtc.isUtc = true) (positive : 0 < m.maxRetryCount) :
    m.retryAt event = .ok (m.memoryRetryAt event) := by
  cases given : m.nextAttemptAtUtc with
  | some next => simp [MarkFailedRequest.retryAt, MarkFailedRequest.memoryRetryAt, given]
  | none =>
      have passed : validate (requireAwareUtc m.failedAtUtc "failed_at_utc" ++
          [requirePositive m.maxRetryCount "max_retry_count"]) = .ok () := by
        rw [validate_eq_ok]
        simp [requirePositive, utc, positive]
      simp only [MarkFailedRequest.retryAt, MarkFailedRequest.memoryRetryAt, given,
        nextOutboxRetryAttemptAtUtc, passed]
      split <;> rfl

omit [Sha256] in
/-- The attempt exhausts the event. -/
theorem nextAttemptChecks_memory (utc : m.failedAtUtc.isUtc = true)
    (next : ∀ t, m.nextAttemptAtUtc = some t → t.isUtc = true ∧ m.failedAtUtc < t) :
    firstFailure (nextAttemptChecks (statusAfterFailure event.val.retryCount m.maxRetryCount)
        m.failedAtUtc (m.memoryRetryAt event)) = none ↔
      ¬ (m.maxRetryCount ≤ event.val.retryCount + 1 ∧ m.nextAttemptAtUtc.isSome) := by
  have delayed : 0 < retryDelaySeconds event.val.retryCount := by
    simp only [retryDelaySeconds, retryBackoffBaseSeconds, retryBackoffMaxSeconds, lt_min_iff]
    exact ⟨by positivity, by omega⟩
  by_cases exhausted : m.maxRetryCount ≤ event.val.retryCount + 1
  · cases given : m.nextAttemptAtUtc with
    | none => simp [statusAfterFailure, MarkFailedRequest.memoryRetryAt, nextAttemptChecks, given,
        exhausted]
    | some t => simp [statusAfterFailure, MarkFailedRequest.memoryRetryAt, nextAttemptChecks, given,
        exhausted]
  · cases given : m.nextAttemptAtUtc with
    | none =>
        have later : ¬ m.failedAtUtc.shift (retryDelaySeconds event.val.retryCount * 1000000) ≤
            m.failedAtUtc := by
          simp only [DateTime.le_def, DateTime.shift]
          omega
        simp [statusAfterFailure, MarkFailedRequest.memoryRetryAt, nextAttemptChecks, given,
          exhausted, utc, later]
    | some t =>
        obtain ⟨nextUtc, later⟩ := next t given
        have after : ¬ t ≤ m.failedAtUtc := by
          simp only [DateTime.le_def, DateTime.lt_def] at later ⊢
          omega
        simp [statusAfterFailure, MarkFailedRequest.memoryRetryAt, nextAttemptChecks, given,
          exhausted, nextUtc, after]

omit [Sha256] in
theorem checks_utc (addressed : firstFailure m.checks = none) : m.failedAtUtc.isUtc = true := by
  simp only [MarkFailedRequest.checks, firstFailure_append, firstFailure_requireAwareUtc]
    at addressed
  exact addressed.2

/-- The dictionary accepts what the table validates, less a next attempt that is given
for the attempt that exhausts the event. -/
theorem failOwned_returns_iff (addressed : firstFailure m.checks = none) :
    (∃ written, failOwned m event = .ok written) ↔
      firstFailure m.tableChecks = none ∧
        ¬ (m.maxRetryCount ≤ event.val.retryCount + 1 ∧ m.nextAttemptAtUtc.isSome) := by
  have utc := checks_utc addressed
  rw [tableChecks_pass]
  constructor
  · rintro ⟨written, run⟩
    simp only [failOwned] at run
    obtain ⟨retryAt, chosen, run⟩ := Except.seq_returns.mp run
    obtain ⟨updated, moved, _⟩ := Except.seq_returns.mp run
    simp only [markOutboxEventFailed] at moved
    obtain ⟨_, passed, _⟩ := Except.seq_returns.mp moved
    have arguments := validate_eq_ok.mp passed
    simp only [failureArgumentChecks, requirePositive, firstFailure_append, firstFailure_cons,
      firstFailure_nil, firstFailure_requireAwareUtc, decide_eq_false_iff_not, not_le,
      and_true] at arguments
    obtain ⟨⟨⟨reason, _⟩, positive⟩, attempt⟩ := arguments
    rw [retryAt_eq utc positive] at chosen
    cases chosen
    have next : ∀ t, m.nextAttemptAtUtc = some t → t.isUtc = true ∧ m.failedAtUtc < t := by
      intro t given
      cases status : statusAfterFailure event.val.retryCount m.maxRetryCount <;>
        simp [nextAttemptChecks, MarkFailedRequest.memoryRetryAt, given, status] at attempt
      exact ⟨attempt.1, by simpa [DateTime.le_def, DateTime.lt_def] using attempt.2⟩
    exact ⟨⟨addressed, reason, positive, next⟩, (nextAttemptChecks_memory utc next).mp attempt⟩
  · rintro ⟨⟨_, reason, positive, next⟩, notBoth⟩
    have attempt := (nextAttemptChecks_memory utc next).mpr notBoth
    have passed : firstFailure (failureArgumentChecks event m.failureReason m.failedAtUtc
        m.maxRetryCount (m.memoryRetryAt event)) = none := by
      simp [failureArgumentChecks, requirePositive, reason, utc, positive, attempt]
    obtain ⟨updated, moved⟩ := markOutboxEventFailed_succeeds passed
    refine ⟨(if updated.val.status = .deadLetter then .deadLettered else .accepted, updated), ?_⟩
    simp only [failOwned]
    refine Except.seq_returns.mpr ⟨_, retryAt_eq utc positive, ?_⟩
    exact Except.seq_returns.mpr ⟨updated, moved, rfl⟩

/-- The failure that the dictionary stores. -/
theorem failOwned_written {written : OutboxDeliveryDecision × OutboxEventRecord}
    (addressed : firstFailure m.checks = none) (run : failOwned m event = .ok written) :
    written.1 = (if m.maxRetryCount ≤ event.val.retryCount + 1 then .deadLettered
      else .accepted) ∧
    written.2.val.delivery = (event.val.failedAt m.failureReason m.failedAtUtc m.maxRetryCount
      (m.memoryRetryAt event)).delivery := by
  have utc := checks_utc addressed
  obtain ⟨accepted, _⟩ := (failOwned_returns_iff addressed).mp ⟨written, run⟩
  obtain ⟨_, _, positive, _⟩ := tableChecks_pass.mp accepted
  simp only [failOwned] at run
  obtain ⟨retryAt, chosen, settled⟩ := Except.seq_returns.mp run
  obtain ⟨updated, moved, told⟩ := Except.seq_returns.mp settled
  rw [retryAt_eq utc positive] at chosen
  cases chosen
  cases told
  obtain ⟨lineage, fields⟩ := markOutboxEventFailed_returns moved
  refine ⟨?_, ?_⟩
  · rw [fields]
    by_cases exhausted : m.maxRetryCount ≤ event.val.retryCount + 1
    · simp [OutboxEventFields.withLineage, OutboxEventFields.failedAt, statusAfterFailure,
        exhausted]
    · simp [OutboxEventFields.withLineage, OutboxEventFields.failedAt, statusAfterFailure,
        exhausted]
  · rw [fields]
    rfl

/-! ## What the two answer -/

/-- The stored event, if the attempt still holds it. -/
def MarkFailedRequest.held (m : MarkFailedRequest) (events : OutboxEvents) :
    Option OutboxEventRecord :=
  (events.get? m.eventId).filter fun event =>
    eventOwnedByDeliveryAttempt event m.leaseOwner m.leaseAttemptId

def unownedDecision : Option OutboxEventRecord → OutboxDeliveryDecision
  | none => .notFound
  | some event =>
      if event.val.status = .published then .alreadyPublished
      else if event.val.status = .deadLetter then .deadLettered
      else .leaseLost

/-- A call that raises. -/
def FailureOutcome.raised (stored : String → Option OutboxDelivery) : FailureOutcome :=
  ⟨none, none, stored⟩

def FailureOutcome.unowned (stored : Option OutboxEventRecord)
    (deliveries : String → Option OutboxDelivery) : FailureOutcome :=
  ⟨some (unownedDecision stored), stored.map fun event => event.val.delivery, deliveries⟩

def FailureOutcome.written (m : MarkFailedRequest) (event : OutboxEventRecord)
    (nextAttemptAtUtc : Option DateTime) (deliveries : String → Option OutboxDelivery) :
    FailureOutcome :=
  let after := (event.val.failedAt m.failureReason m.failedAtUtc m.maxRetryCount
    nextAttemptAtUtc).delivery
  ⟨some (if m.maxRetryCount ≤ event.val.retryCount + 1 then .deadLettered else .accepted),
    some after, Function.update deliveries m.eventId (some after)⟩

variable {events : OutboxEvents} {rows : OutboxRows}

omit [Sha256] in
theorem OutboxEvents.deliveries_set (id : String) (updated : OutboxEventRecord) :
    OutboxEvents.deliveries (events.set id updated) =
      Function.update events.deliveries id (some updated.val.delivery) := by
  funext other
  by_cases here : other = id
  · subst here
    simp [OutboxEvents.deliveries]
  · rw [Function.update_of_ne here, OutboxEvents.deliveries, Dict.get?_set_of_ne updated here]
    rfl

omit [Sha256] in
theorem OutboxRows.deliveries_set (id : String) (updated : OutboxEventFields) :
    OutboxRows.deliveries (rows.set id updated) =
      Function.update rows.deliveries id (some updated.delivery) := by
  funext other
  by_cases here : other = id
  · subst here
    simp [OutboxRows.deliveries]
  · rw [Function.update_of_ne here, OutboxRows.deliveries, Dict.get?_set_of_ne updated here]
    rfl

omit [Sha256] in
theorem OutboxRows.Represents.deliveries (represents : rows.Represents events) :
    rows.deliveries = events.deliveries := by
  funext id
  rw [OutboxRows.deliveries, represents id, OutboxEvents.deliveries, Option.map_map]
  rfl

omit [Sha256] in
theorem held_eq_some (event : OutboxEventRecord) :
    m.held events = some event ↔ events.get? m.eventId = some event ∧
      eventOwnedByDeliveryAttempt event m.leaseOwner m.leaseAttemptId = true :=
  Option.filter_eq_some_iff

theorem memory_refuses (refused : firstFailure m.checks ≠ none) :
    memoryFailureOutcome events m = .raised events.deliveries := by
  obtain ⟨error, raised⟩ := Option.ne_none_iff_exists'.mp refused
  simp only [memoryFailureOutcome, markOwnedOutboxEventFailed, acknowledge,
    validate_eq_error.mpr raised]
  rfl

theorem memory_unowned (addressed : firstFailure m.checks = none) (lost : m.held events = none) :
    memoryFailureOutcome events m = .unowned (events.get? m.eventId) events.deliveries := by
  have passed := validate_eq_ok.mpr addressed
  cases stored : events.get? m.eventId with
  | none =>
      simp only [memoryFailureOutcome, markOwnedOutboxEventFailed, acknowledge, passed, stored]
      rfl
  | some event =>
      have foreign : eventOwnedByDeliveryAttempt event m.leaseOwner m.leaseAttemptId = false := by
        simpa [MarkFailedRequest.held, stored] using lost
      simp only [memoryFailureOutcome, markOwnedOutboxEventFailed, acknowledge, passed, stored,
        terminalOutboxDeliveryResult, FailureOutcome.unowned, unownedDecision]
      by_cases published : event.val.status = .published
      · simp [failureOutcome, Except.toOption, published]
      · by_cases dead : event.val.status = .deadLetter
        · simp [failureOutcome, Except.toOption, dead]
        · simp [failureOutcome, Except.toOption, published, dead, foreign]

omit [Sha256] in
theorem terminal_of_owned (owned : eventOwnedByDeliveryAttempt event m.leaseOwner
    m.leaseAttemptId = true) : terminalOutboxDeliveryResult event = none := by
  simp only [eventOwnedByDeliveryAttempt, Bool.and_eq_true, decide_eq_true_eq] at owned
  simp [terminalOutboxDeliveryResult, owned.1.1]

/-- What the dictionary answers an attempt that holds the event. -/
theorem memory_held (addressed : firstFailure m.checks = none)
    (holds : m.held events = some event) :
    memoryFailureOutcome events m =
      if firstFailure m.tableChecks = none ∧
          ¬ (m.maxRetryCount ≤ event.val.retryCount + 1 ∧ m.nextAttemptAtUtc.isSome) then
        .written m event (m.memoryRetryAt event) events.deliveries
      else .raised events.deliveries := by
  obtain ⟨stored, owned⟩ := (held_eq_some event).mp holds
  have passed := validate_eq_ok.mpr addressed
  have terminal := terminal_of_owned owned
  simp only [memoryFailureOutcome, markOwnedOutboxEventFailed, acknowledge, passed, stored,
    terminal, owned, if_true]
  have returns : (∃ written, failOwned m event = .ok written) ↔ _ :=
    failOwned_returns_iff addressed
  cases run : failOwned m event with
  | error error =>
      have refused := mt returns.mpr (by simp [run])
      rw [if_neg refused]
      rfl
  | ok written =>
      obtain ⟨decision, fields⟩ := failOwned_written addressed run
      rw [if_pos (returns.mp ⟨written, run⟩)]
      simp only [failureOutcome, OutboxEvents.deliveries_set, fields, decision, Except.toOption,
        FailureOutcome.written, Option.map_some, Option.bind_some]

theorem table_refuses (refused : firstFailure m.tableChecks ≠ none) :
    tableFailureOutcome rows m = .raised rows.deliveries := by
  obtain ⟨error, raised⟩ := Option.ne_none_iff_exists'.mp refused
  simp only [tableFailureOutcome, markTableOutboxEventFailed, failInTransaction,
    validate_eq_error.mpr raised]
  rfl

theorem outboxEventFromRow_stored (event : OutboxEventRecord) :
    ∃ loaded, outboxEventFromRow event.val = .ok loaded ∧
      loaded.val.delivery = event.val.delivery ∧ loaded.val.status = event.val.status := by
  obtain ⟨loaded, made, fields⟩ := create_of_valid event.valid
  refine ⟨loaded, ?_, ?_, ?_⟩
  · simp only [outboxEventFromRow, made]
    rfl
  · rw [fields]
    rfl
  · rw [fields]
    rfl

omit [Sha256] in
theorem leasedBy_eq (event : OutboxEventRecord) :
    event.val.leasedBy m.leaseOwner m.leaseAttemptId =
      eventOwnedByDeliveryAttempt event m.leaseOwner m.leaseAttemptId := rfl

/-- A transaction that returns is committed. -/
theorem table_commits (accepted : firstFailure m.tableChecks = none)
    {returned : Option OutboxEventFields} (updated : updateFailedRow rows m = .ok returned)
    {result : OutboxDeliveryResult}
    (told : failedDeliveryResult (returned.elim rows fun row => rows.set m.eventId row) returned
      m.eventId = .ok result) :
    tableFailureOutcome rows m = failureOutcome (.ok result : Except PyError _)
      (OutboxRows.deliveries (returned.elim rows fun row => rows.set m.eventId row)) := by
  have checked : (validate m.tableChecks).mapError OutboxUpdateError.raised = .ok () := by
    rw [validate_eq_ok.mpr accepted]
    rfl
  have ran : failInTransaction rows m =
      .ok (result, returned.elim rows fun row => rows.set m.eventId row) := by
    simp only [failInTransaction]
    refine Except.seq_returns.mpr ⟨(), checked, ?_⟩
    refine Except.seq_returns.mpr ⟨returned, updated, ?_⟩
    exact Except.seq_returns.mpr ⟨result, told, rfl⟩
  simp only [tableFailureOutcome, markTableOutboxEventFailed, ran]
  rfl

theorem table_unowned (represents : rows.Represents events)
    (accepted : firstFailure m.tableChecks = none) (lost : m.held events = none) :
    tableFailureOutcome rows m = .unowned (events.get? m.eventId) rows.deliveries := by
  have row := represents m.eventId
  cases stored : events.get? m.eventId with
  | none =>
      rw [stored, Option.map_none] at row
      have updated : updateFailedRow rows m = .ok none := by
        simp only [updateFailedRow, row]
      have told : failedDeliveryResult rows none m.eventId = .ok ⟨.notFound, none⟩ := by
        simp only [failedDeliveryResult, unownedOutboxDeliveryResult, row]
      rw [table_commits accepted updated told]
      rfl
  | some event =>
      have foreign : eventOwnedByDeliveryAttempt event m.leaseOwner m.leaseAttemptId = false := by
        simpa [MarkFailedRequest.held, stored] using lost
      rw [stored, Option.map_some] at row
      have updated : updateFailedRow rows m = .ok none := by
        simp only [updateFailedRow, row, leasedBy_eq, foreign]
        rfl
      obtain ⟨loaded, made, same, status⟩ := outboxEventFromRow_stored event
      have told : failedDeliveryResult rows none m.eventId =
          .ok ⟨unownedDecision (some event), some loaded⟩ := by
        simp only [failedDeliveryResult, unownedOutboxDeliveryResult, row]
        refine Except.seq_returns.mpr ⟨loaded, made, ?_⟩
        rw [status]
        rfl
      rw [table_commits accepted updated told]
      simp only [failureOutcome, Except.toOption, FailureOutcome.unowned, Option.map_some,
        Option.bind_some, same, Option.elim_none]

omit [Sha256] in
theorem failedBy_eq (row : OutboxEventFields) :
    row.failedBy m = row.failedAt m.failureReason m.failedAtUtc m.maxRetryCount
      (if m.maxRetryCount ≤ row.retryCount + 1 then none else some m.tableRetryAt) := rfl

/-- The table reads back the row that it has updated. -/
theorem outboxEventFromRow_failed (accepted : firstFailure m.tableChecks = none)
    (event : OutboxEventRecord) :
    ∃ loaded, outboxEventFromRow (event.val.failedBy m) = .ok loaded ∧
      loaded.val.delivery = (event.val.failedBy m).delivery ∧
      loaded.val.status = (event.val.failedBy m).status := by
  obtain ⟨addressed, reason, positive, next⟩ := tableChecks_pass.mp accepted
  have utc := checks_utc addressed
  simp only [MarkFailedRequest.tableChecks, firstFailure_append, firstFailure_cons,
    firstFailure_requireAwareUtc, decide_eq_false_iff_not] at accepted
  obtain ⟨⟨_, retryUtc⟩, later, _⟩ := accepted
  have attempt : firstFailure (nextAttemptChecks
      (statusAfterFailure event.val.retryCount m.maxRetryCount) m.failedAtUtc
      (if m.maxRetryCount ≤ event.val.retryCount + 1 then none else some m.tableRetryAt)) =
        none := by
    by_cases exhausted : m.maxRetryCount ≤ event.val.retryCount + 1
    · simp [statusAfterFailure, nextAttemptChecks, exhausted]
    · simp [statusAfterFailure, nextAttemptChecks, exhausted, retryUtc, later]
  have passed : firstFailure (failureArgumentChecks event m.failureReason m.failedAtUtc
      m.maxRetryCount (if m.maxRetryCount ≤ event.val.retryCount + 1 then none
        else some m.tableRetryAt)) = none := by
    simp [failureArgumentChecks, requirePositive, reason, utc, positive, attempt]
  obtain ⟨loaded, moved⟩ := markOutboxEventFailed_succeeds passed
  simp only [markOutboxEventFailed] at moved
  obtain ⟨_, _, made⟩ := Except.seq_returns.mp moved
  obtain ⟨lineage, fields⟩ := create_returns made
  refine ⟨loaded, ?_, ?_, ?_⟩
  · simp only [outboxEventFromRow, failedBy_eq, made]
    rfl
  · rw [fields, failedBy_eq]
    rfl
  · rw [fields, failedBy_eq]
    rfl

/-- What the table answers an attempt that holds the event. -/
theorem table_held (represents : rows.Represents events)
    (accepted : firstFailure m.tableChecks = none) (holds : m.held events = some event) :
    tableFailureOutcome rows m =
      if integerColumnMax < event.val.retryCount + 1 then .raised rows.deliveries
      else .written m event (if m.maxRetryCount ≤ event.val.retryCount + 1 then none
        else some m.tableRetryAt) rows.deliveries := by
  obtain ⟨stored, owned⟩ := (held_eq_some event).mp holds
  have row := represents m.eventId
  rw [stored, Option.map_some] at row
  by_cases full : integerColumnMax < event.val.retryCount + 1
  · have overflows : updateFailedRow rows m = .error .integerOutOfRange := by
      simp only [updateFailedRow, row, leasedBy_eq, owned, full, if_true]
    have checked := validate_eq_ok.mpr accepted
    rw [if_pos full]
    simp only [tableFailureOutcome, markTableOutboxEventFailed, failInTransaction, checked,
      overflows]
    rfl
  · have updated : updateFailedRow rows m = .ok (some (event.val.failedBy m)) := by
      simp only [updateFailedRow, row, leasedBy_eq, owned, full, if_true, if_false]
    obtain ⟨loaded, made, same, status⟩ := outboxEventFromRow_failed accepted event
    have told : failedDeliveryResult (rows.set m.eventId (event.val.failedBy m))
        (some (event.val.failedBy m)) m.eventId =
          .ok ⟨if m.maxRetryCount ≤ event.val.retryCount + 1 then .deadLettered else .accepted,
            some loaded⟩ := by
      simp only [failedDeliveryResult]
      refine Except.seq_returns.mpr ⟨loaded, made, ?_⟩
      rw [status]
      by_cases exhausted : m.maxRetryCount ≤ event.val.retryCount + 1
      · simp only [OutboxEventFields.failedBy, exhausted, if_true]
        rfl
      · simp only [OutboxEventFields.failedBy, exhausted, if_false]
        rfl
    rw [if_neg full, table_commits accepted updated told]
    simp only [failureOutcome, Except.toOption, FailureOutcome.written, Option.map_some,
      Option.bind_some, same, Option.elim_some, OutboxRows.deliveries_set, failedBy_eq]

/-! ## When the two agree -/

omit [Sha256] in
theorem written_inj {a b : Option DateTime} {deliveries : String → Option OutboxDelivery} :
    FailureOutcome.written m event a deliveries = FailureOutcome.written m event b deliveries ↔
      a = b := by
  constructor
  · intro same
    have returned := congrArg (fun outcome => outcome.returned.map OutboxDelivery.nextAttemptAtUtc)
      same
    exact Option.some.inj returned
  · intro same
    rw [same]

omit [Sha256] in
theorem written_ne_raised {a : Option DateTime} {deliveries : String → Option OutboxDelivery} :
    FailureOutcome.written m event a deliveries ≠ .raised deliveries := by
  intro same
  have disposition := congrArg FailureOutcome.disposition same
  cases disposition

omit [Sha256] in
theorem unowned_ne_raised {stored : Option OutboxEventRecord}
    {deliveries : String → Option OutboxDelivery} :
    FailureOutcome.unowned stored deliveries ≠ .raised deliveries := by
  intro same
  have disposition := congrArg FailureOutcome.disposition same
  cases disposition

omit [Sha256] in
/-- The first failure waits for sixty seconds, the later ones for longer. -/
theorem retryDelaySeconds_eq_base {retryCount : Int} (counted : 0 ≤ retryCount) :
    retryDelaySeconds retryCount = 60 ↔ retryCount = 0 := by
  constructor
  · intro base
    by_contra later
    obtain ⟨earlier, more⟩ : ∃ earlier, retryCount.toNat = earlier + 1 :=
      Nat.exists_eq_succ_of_ne_zero (by omega)
    have positive : 0 < 2 ^ earlier := by positivity
    simp only [retryDelaySeconds, retryBackoffBaseSeconds, retryBackoffMaxSeconds, more,
      pow_succ] at base
    omega
  · intro first
    rw [first]
    decide

omit [Sha256] in
theorem retryCount_nonnegative (event : OutboxEventRecord) : 0 ≤ event.val.retryCount := by
  obtain ⟨_, _, times, _⟩ := OutboxEventFields.checks_pass.mp event.valid
  exact (OutboxEventFields.timeChecks_pass.mp times).2.2.2.2.2

omit [Sha256] in
/-- The two store one time for a retry that is given, or that is the first. -/
theorem retryTimes_agree (retryable : ¬ m.maxRetryCount ≤ event.val.retryCount + 1) :
    some m.tableRetryAt = m.memoryRetryAt event ↔
      (m.nextAttemptAtUtc = none → event.val.retryCount = 0) := by
  cases given : m.nextAttemptAtUtc with
  | some next => simp [MarkFailedRequest.tableRetryAt, MarkFailedRequest.memoryRetryAt, given]
  | none =>
      have base := retryDelaySeconds_eq_base (retryCount_nonnegative event)
      simp only [MarkFailedRequest.tableRetryAt, MarkFailedRequest.memoryRetryAt, given, retryable,
        Option.getD_none, if_false, Option.some.injEq, DateTime.shift, DateTime.mk.injEq, and_true,
        forall_const]
      omega

/-- The condition on a request whose texts are given and whose failure time is UTC. -/
structure FailuresAgree (m : MarkFailedRequest) (events : OutboxEvents) : Prop where
  unheld : m.held events = none → firstFailure m.tableChecks = none
  exhausting : ∀ event, m.held events = some event → firstFailure m.tableChecks = none →
    m.maxRetryCount ≤ event.val.retryCount + 1 →
      (m.nextAttemptAtUtc.isSome ↔ integerColumnMax < event.val.retryCount + 1)
  retrying : ∀ event, m.held events = some event → firstFailure m.tableChecks = none →
    ¬ m.maxRetryCount ≤ event.val.retryCount + 1 →
      event.val.retryCount + 1 ≤ integerColumnMax ∧
        (m.nextAttemptAtUtc = none → event.val.retryCount = 0)

theorem held_agree_iff (represents : rows.Represents events)
    (addressed : firstFailure m.checks = none) (accepted : firstFailure m.tableChecks = none)
    (holds : m.held events = some event) :
    tableFailureOutcome rows m = memoryFailureOutcome events m ↔
      if m.maxRetryCount ≤ event.val.retryCount + 1 then
        m.nextAttemptAtUtc.isSome ↔ integerColumnMax < event.val.retryCount + 1
      else event.val.retryCount + 1 ≤ integerColumnMax ∧
        (m.nextAttemptAtUtc = none → event.val.retryCount = 0) := by
  rw [table_held represents accepted holds, memory_held addressed holds, represents.deliveries]
  by_cases exhausted : m.maxRetryCount ≤ event.val.retryCount + 1
  · by_cases full : integerColumnMax < event.val.retryCount + 1
    · cases given : m.nextAttemptAtUtc with
      | none => simp [accepted, exhausted, full, written_ne_raised.symm]
      | some next => simp [accepted, exhausted, full]
    · cases given : m.nextAttemptAtUtc with
      | none => simp [accepted, exhausted, full, MarkFailedRequest.memoryRetryAt, given]
      | some next => simp [accepted, exhausted, full, written_ne_raised]
  · by_cases full : integerColumnMax < event.val.retryCount + 1
    · simp [accepted, exhausted, full, written_ne_raised.symm, not_le.mpr full]
    · simp only [accepted, exhausted, full, if_false, if_true, false_and, not_false_eq_true,
        and_self, written_inj, retryTimes_agree exhausted, not_lt.mp full, true_and]

end

end Stores

/-! ## A second failure without a next attempt -/

def sampleLeasedEvent : OutboxEventRecord where
  val :=
    { eventId := "evt-1"
      eventType := "idea.candidate.persisted.v1"
      aggregateType := "idea_candidate"
      aggregateId := "candidate-1"
      schemaVersion := "v1"
      payload := [("candidate_family", .text "high_cash")]
      occurredAtUtc := .utc 0
      status := .leased
      correlationId := "corr-1"
      traceId := "trace-1"
      failureReason := some "broker unreachable"
      retryCount := 1
      firstFailedAtUtc := some (.utc 10)
      lastFailedAtUtc := some (.utc 10)
      leaseOwner := some "worker-1"
      leaseAttemptId := some "attempt-1"
      leaseExpiresAtUtc := some (.utc 100) }
  valid := by decide +kernel

def sampleLeasedEvents : OutboxEvents := Dict.empty.set "evt-1" sampleLeasedEvent

def sampleLeasedRows : OutboxRows := Dict.empty.set "evt-1" sampleLeasedEvent.val

def sampleSecondFailure : MarkFailedRequest where
  eventId := "evt-1"
  leaseOwner := "worker-1"
  leaseAttemptId := "attempt-1"
  failureReason := "broker unreachable"
  failedAtUtc := .utc 50

theorem sampleLeasedRows_represent : sampleLeasedRows.Represents sampleLeasedEvents := by
  intro id
  by_cases here : id = "evt-1"
  · subst here
    simp [sampleLeasedRows, sampleLeasedEvents]
  · simp [sampleLeasedRows, sampleLeasedEvents, Dict.get?_set_of_ne _ here]

section Sample

local instance failureSha256 : Sha256 := Sha256.zeros

end Sample

end LotusIdea

import LotusIdea.Outbox.Delivery
import LotusIdea.Foundation.Runs

/-!
# Outbox delivery under any interleaving

Workers claim, publish and fail events, operators revive dead letters, in any
order and at any time.  `EventStep` says once what a call can do to a stored
event; the lease, retry, dead-letter and publication properties of every run
follow from it.
-/

set_option autoImplicit false

namespace LotusIdea

variable [Sha256]

/-! ## Calls -/

inductive OutboxCall where
  | claim (request : OutboxClaimRequest)
  | markPublished (request : MarkPublishedRequest)
  | markFailed (request : MarkFailedRequest)
  | recover (request : OutboxRecoveryRequest)

inductive OutboxAnswer where
  | claimed (events : List OutboxEventRecord)
  | delivery (result : OutboxDeliveryResult)
  | recovery (result : OutboxRecoveryClaimResult)

namespace OutboxState

def perform (s : OutboxState) : OutboxCall → Except PyError OutboxAnswer × OutboxState
  | .claim c =>
      let (answer, events) := claimOutboxEventsForDelivery s.events c
      (answer.map .claimed, { s with events := events })
  | .markPublished m =>
      let (answer, events) := markOwnedOutboxEventPublished s.events m
      (answer.map .delivery, { s with events := events })
  | .markFailed m =>
      let (answer, events) := markOwnedOutboxEventFailed s.events m
      (answer.map .delivery, { s with events := events })
  | .recover r =>
      let (answer, next) := claimDeadLetterForRecovery s r
      (answer.map .recovery, next)

def step (s : OutboxState) (call : OutboxCall) : OutboxState := (s.perform call).2

def run (s : OutboxState) (calls : List OutboxCall) : OutboxState :=
  Runs.run OutboxState.step s calls

end OutboxState

/-- Events stand under their own ids. -/
def OutboxEvents.Keyed (events : OutboxEvents) : Prop :=
  ∀ id event, events.get? id = some event → event.val.eventId = id

/-- The recovery that an answer reports as accepted for an event. -/
def acceptsRecovery (answer : Except PyError OutboxAnswer) (id : String) : Bool :=
  match answer with
  | .ok (.recovery result) =>
      result.decision = .accepted && result.event.any fun event => event.val.eventId = id
  | _ => false

/-- What a call does to the event stored under `id` when it changes it. -/
inductive EventStep (s : OutboxState) (call : OutboxCall) (id : String)
    (old new : OutboxEventRecord) : Prop where
  | claimed (c : OutboxClaimRequest) (isClaim : call = .claim c)
      (ready : outboxEventDeliveryReady old c.maxRetryCount c.claimedAtUtc = true)
      (moved : leaseOutboxEvent old c.leaseOwner c.leaseAttemptId c.leaseExpiresAtUtc = .ok new)
  | published (m : MarkPublishedRequest) (isMark : call = .markPublished m) (target : m.eventId = id)
      (owned : eventOwnedByDeliveryAttempt old m.leaseOwner m.leaseAttemptId = true)
      (moved : markOutboxEventPublished old m.publishedAtUtc = .ok new)
  | failed (m : MarkFailedRequest) (isMark : call = .markFailed m) (target : m.eventId = id)
      (owned : eventOwnedByDeliveryAttempt old m.leaseOwner m.leaseAttemptId = true)
      (retryAt : Option DateTime)
      (moved : markOutboxEventFailed old m.failureReason m.failedAtUtc m.maxRetryCount retryAt =
        .ok new)
  | recovered (r : OutboxRecoveryRequest) (isRecovery : call = .recover r)
      (dead : old.val.status = .deadLetter)
      (accepted : acceptsRecovery (s.perform call).1 id = true)
      (moved : leaseOutboxEvent old r.leaseOwner r.leaseAttemptId r.leaseExpiresAtUtc = .ok new)

/-! ## One call -/

omit [Sha256] in
theorem ready_stored {events : OutboxEvents} (keyed : events.Keyed)
    {limit maxRetryCount : Int} {evaluatedAtUtc : DateTime} {ready : List OutboxEventRecord}
    (run : outboxEventsForDelivery events limit maxRetryCount evaluatedAtUtc = .ok ready) :
    ∀ event ∈ ready, events.get? event.val.eventId = some event ∧
      outboxEventDeliveryReady event maxRetryCount evaluatedAtUtc = true := by
  simp only [outboxEventsForDelivery] at run
  obtain ⟨_, _, run⟩ := Except.seq_returns.mp run
  cases run
  intro event member
  have chosen := List.mem_of_mem_take member
  rw [List.mem_insertionSort, List.mem_filter] at chosen
  obtain ⟨id, stored⟩ := Dict.mem_values_iff.mp chosen.1
  refine ⟨?_, chosen.2⟩
  rw [keyed id event stored]
  exact stored

/-- The loop leaves an event alone or leases it. -/
theorem leaseEach_event (c : OutboxClaimRequest) (ready : List OutboxEventRecord)
    (events : OutboxEvents) (claimed : List OutboxEventRecord) (id : String) :
    (leaseEach c ready events claimed).2.get? id = events.get? id ∨
    ∃ event ∈ ready, event.val.eventId = id ∧ ∃ leased,
      leaseOutboxEvent event c.leaseOwner c.leaseAttemptId c.leaseExpiresAtUtc = .ok leased ∧
      (leaseEach c ready events claimed).2.get? id = some leased := by
  induction ready generalizing events claimed with
  | nil => exact Or.inl rfl
  | cons event rest ih =>
      simp only [leaseEach]
      cases run : leaseOutboxEvent event c.leaseOwner c.leaseAttemptId c.leaseExpiresAtUtc with
      | error raised => exact Or.inl rfl
      | ok leased =>
          simp only
          rcases ih (events.set event.val.eventId leased) (claimed ++ [leased]) with
            same | ⟨other, member, target, again, moved, stored⟩
          · by_cases here : id = event.val.eventId
            · subst here
              rw [Dict.get?_set_self] at same
              exact Or.inr ⟨event, List.mem_cons_self, rfl, leased, run, same⟩
            · rw [Dict.get?_set_of_ne leased here] at same
              exact Or.inl same
          · exact Or.inr
              ⟨other, List.mem_cons_of_mem _ member, target, again, moved, stored⟩

theorem claim_event {s : OutboxState} (keyed : s.events.Keyed) (c : OutboxClaimRequest)
    (id : String) :
    (s.step (.claim c)).events.get? id = s.events.get? id ∨
    ∃ old new, s.events.get? id = some old ∧ (s.step (.claim c)).events.get? id = some new ∧
      EventStep s (.claim c) id old new := by
  simp only [OutboxState.step, OutboxState.perform, claimOutboxEventsForDelivery]
  cases validate c.checks with
  | error raised => exact Or.inl rfl
  | ok _ =>
      simp only
      cases run : outboxEventsForDelivery s.events c.limit c.maxRetryCount c.claimedAtUtc with
      | error raised => exact Or.inl rfl
      | ok ready =>
          simp only
          rcases leaseEach_event c ready s.events [] id with
            same | ⟨event, member, target, leased, moved, stored⟩
          · exact Or.inl same
          · obtain ⟨found, isReady⟩ := ready_stored keyed run event member
            rw [target] at found
            exact Or.inr ⟨event, leased, found, stored, EventStep.claimed c rfl isReady moved⟩

omit [Sha256] in
/-- What an acknowledgement leaves of the events. -/
theorem acknowledge_event (events : OutboxEvents) (checks : List (Bool × PyError))
    (eventId leaseOwner leaseAttemptId : String)
    (transition : OutboxEventRecord → Except PyError (OutboxDeliveryDecision × OutboxEventRecord)) :
    (acknowledge events checks eventId leaseOwner leaseAttemptId transition).2 = events ∨
    ∃ old decision new, events.get? eventId = some old ∧
      eventOwnedByDeliveryAttempt old leaseOwner leaseAttemptId = true ∧
      transition old = .ok (decision, new) ∧
      (acknowledge events checks eventId leaseOwner leaseAttemptId transition).2 =
        events.set eventId new := by
  unfold acknowledge
  cases validate checks with
  | error raised => exact Or.inl rfl
  | ok _ =>
      cases stored : events.get? eventId with
      | none => exact Or.inl rfl
      | some event =>
          cases terminal : terminalOutboxDeliveryResult event with
          | some result => exact Or.inl (by simp [terminal])
          | none =>
              by_cases owned : eventOwnedByDeliveryAttempt event leaseOwner leaseAttemptId = true
              · cases moved : transition event with
                | error raised => exact Or.inl (by simp [terminal, owned, moved])
                | ok outcome =>
                    obtain ⟨decision, updated⟩ := outcome
                    exact Or.inr ⟨event, decision, updated, rfl, owned, moved,
                      by simp [terminal, owned, moved]⟩
              · exact Or.inl (by simp [terminal, owned])

theorem failOwned_returns {m : MarkFailedRequest} {event updated : OutboxEventRecord}
    {decision : OutboxDeliveryDecision} (run : failOwned m event = .ok (decision, updated)) :
    ∃ retryAt, markOutboxEventFailed event m.failureReason m.failedAtUtc m.maxRetryCount retryAt =
      .ok updated := by
  simp only [failOwned] at run
  obtain ⟨retryAt, _, run⟩ := Except.seq_returns.mp run
  obtain ⟨written, moved, run⟩ := Except.seq_returns.mp run
  cases run
  exact ⟨retryAt, moved⟩

theorem markPublished_event (s : OutboxState) (m : MarkPublishedRequest) (id : String) :
    (s.step (.markPublished m)).events.get? id = s.events.get? id ∨
    ∃ old new, s.events.get? id = some old ∧
      (s.step (.markPublished m)).events.get? id = some new ∧
      EventStep s (.markPublished m) id old new := by
  simp only [OutboxState.step, OutboxState.perform, markOwnedOutboxEventPublished]
  rcases acknowledge_event s.events m.checks m.eventId m.leaseOwner m.leaseAttemptId
      (fun event => (markOutboxEventPublished event m.publishedAtUtc).map fun updated =>
        (.accepted, updated)) with same | ⟨old, decision, new, stored, owned, moved, written⟩
  · exact Or.inl (by rw [same])
  · rw [written]
    by_cases here : id = m.eventId
    · subst here
      refine Or.inr ⟨old, new, stored, Dict.get?_set_self _ _ _, ?_⟩
      cases run : markOutboxEventPublished old m.publishedAtUtc with
      | error raised => simp [run, Except.map] at moved
      | ok updated =>
          simp only [run, Except.map, Except.ok.injEq, Prod.mk.injEq] at moved
          exact EventStep.published m rfl rfl owned (moved.2 ▸ run)
    · exact Or.inl (Dict.get?_set_of_ne new here)

theorem markFailed_event (s : OutboxState) (m : MarkFailedRequest) (id : String) :
    (s.step (.markFailed m)).events.get? id = s.events.get? id ∨
    ∃ old new, s.events.get? id = some old ∧
      (s.step (.markFailed m)).events.get? id = some new ∧
      EventStep s (.markFailed m) id old new := by
  simp only [OutboxState.step, OutboxState.perform, markOwnedOutboxEventFailed]
  rcases acknowledge_event s.events m.checks m.eventId m.leaseOwner m.leaseAttemptId
      (failOwned m) with same | ⟨old, decision, new, stored, owned, moved, written⟩
  · exact Or.inl (by rw [same])
  · rw [written]
    by_cases here : id = m.eventId
    · subst here
      obtain ⟨retryAt, failed⟩ := failOwned_returns moved
      exact Or.inr ⟨old, new, stored, Dict.get?_set_self _ _ _,
        EventStep.failed m rfl rfl owned retryAt failed⟩
    · exact Or.inl (Dict.get?_set_of_ne new here)

theorem leased_eventId {event leased : OutboxEventRecord} {leaseOwner leaseAttemptId : String}
    {leaseExpiresAtUtc : DateTime}
    (run : leaseOutboxEvent event leaseOwner leaseAttemptId leaseExpiresAtUtc = .ok leased) :
    leased.val.eventId = event.val.eventId := by
  obtain ⟨lineage, fields⟩ := leaseOutboxEvent_returns run
  rw [fields]
  rfl

omit [Sha256] in
theorem blockedRecoveryClaim_refuses {event : OutboxEventRecord} {records : OutboxRecoveryRecords}
    {maxRecoveryAttempts : Int} {result : OutboxRecoveryClaimResult}
    (blocked : blockedRecoveryClaim event records maxRecoveryAttempts = some result) :
    result.decision ≠ .accepted := by
  unfold blockedRecoveryClaim at blocked
  intro accepted
  split at blocked
  · cases blocked
    cases accepted
  split at blocked
  · cases blocked
    cases accepted
  split at blocked
  · cases blocked
    cases accepted
  split at blocked
  · cases blocked
    cases accepted
  · cases blocked

omit [Sha256] in
theorem blockedRecoveryClaim_none {event : OutboxEventRecord} {records : OutboxRecoveryRecords}
    {maxRecoveryAttempts : Int}
    (free : blockedRecoveryClaim event records maxRecoveryAttempts = none) :
    event.val.status = .deadLetter ∧
      (recoveryAttemptCount records event.val.eventId : Int) < maxRecoveryAttempts := by
  unfold blockedRecoveryClaim at free
  split at free
  · cases free
  split at free
  · cases free
  rename_i dead
  split at free
  · cases free
  split at free
  · cases free
  · rename_i below
    exact ⟨not_not.mp dead, not_le.mp below⟩

/-- An accepted recovery found a dead letter below the limit and no record of
its key; every other answer leaves the state as it was. -/
theorem recover_cases (s : OutboxState) (r : OutboxRecoveryRequest) :
    ((claimDeadLetterForRecovery s r).2 = s ∧
      ∀ id, acceptsRecovery ((claimDeadLetterForRecovery s r).1.map .recovery) id = false) ∨
    ∃ event auditRecord leased, event ∈ s.events.values ∧ event.val.status = .deadLetter ∧
      (∀ record ∈ s.recoveryRecords.values,
        record.idempotencyFingerprint ≠ r.idempotencyFingerprint) ∧
      (recoveryAttemptCount s.recoveryRecords event.val.eventId : Int) < r.maxRecoveryAttempts ∧
      buildOutboxRecoveryAuditRecord event r = .ok auditRecord ∧
      leaseOutboxEvent event r.leaseOwner r.leaseAttemptId r.leaseExpiresAtUtc = .ok leased ∧
      claimDeadLetterForRecovery s r =
        (.ok ⟨.accepted, some leased, some auditRecord, none⟩,
          { events := s.events.set event.val.eventId leased
            recoveryRecords := s.recoveryRecords.set auditRecord.recoveryId auditRecord }) := by
  unfold claimDeadLetterForRecovery
  cases validate r.entryChecks with
  | error raised => exact Or.inl ⟨rfl, fun _ => rfl⟩
  | ok _ =>
      cases known : s.recoveryRecords.values.find? fun record =>
          record.idempotencyFingerprint = r.idempotencyFingerprint with
      | some existing =>
          simp only
          split
          · exact Or.inl ⟨rfl, fun _ => rfl⟩
          · exact Or.inl ⟨rfl, fun _ => rfl⟩
      | none =>
          cases found : s.events.values.find? fun event =>
              outboxDeadLetterSupportReference event.val.eventId = r.supportReference with
          | none => exact Or.inl ⟨rfl, fun _ => rfl⟩
          | some event =>
              cases blocked : blockedRecoveryClaim event s.recoveryRecords r.maxRecoveryAttempts with
              | some result =>
                  refine Or.inl ⟨by simp [blocked], fun id => ?_⟩
                  have refused := blockedRecoveryClaim_refuses blocked
                  simp [blocked, Except.map, acceptsRecovery, refused]
              | none =>
                  obtain ⟨dead, below⟩ := blockedRecoveryClaim_none blocked
                  simp only [blocked, acceptRecoveryClaim]
                  cases built : buildOutboxRecoveryAuditRecord event r with
                  | error raised => exact Or.inl ⟨rfl, fun _ => rfl⟩
                  | ok auditRecord =>
                      cases moved : leaseOutboxEvent event r.leaseOwner r.leaseAttemptId
                          r.leaseExpiresAtUtc with
                      | error raised => exact Or.inl ⟨rfl, fun _ => rfl⟩
                      | ok leased =>
                          refine Or.inr ⟨event, auditRecord, leased,
                            List.mem_of_find?_eq_some found, dead, ?_, below, built, moved, rfl⟩
                          intro record member
                          have missed := List.find?_eq_none.mp known record member
                          simpa using missed

theorem recover_event {s : OutboxState} (keyed : s.events.Keyed) (r : OutboxRecoveryRequest)
    (id : String) :
    (s.step (.recover r)).events.get? id = s.events.get? id ∨
    ∃ old new, s.events.get? id = some old ∧ (s.step (.recover r)).events.get? id = some new ∧
      EventStep s (.recover r) id old new := by
  rcases recover_cases s r with ⟨same, _⟩ | ⟨event, auditRecord, leased, member, dead, _, _, _,
    moved, accepted⟩
  · exact Or.inl (by simp only [OutboxState.step, OutboxState.perform, same])
  · obtain ⟨own, stored⟩ := Dict.mem_values_iff.mp member
    have ownId := keyed own event stored
    by_cases here : id = event.val.eventId
    · subst here
      rw [← ownId] at stored
      refine Or.inr ⟨event, leased, stored, ?_, EventStep.recovered r rfl dead ?_ moved⟩
      · simp only [OutboxState.step, OutboxState.perform, accepted, Dict.get?_set_self]
      · simp [OutboxState.perform, accepted, Except.map, acceptsRecovery, leased_eventId moved]
    · refine Or.inl ?_
      simp only [OutboxState.step, OutboxState.perform, accepted]
      exact Dict.get?_set_of_ne leased here

/-- Every call leaves the event stored under an id, or makes one `EventStep`. -/
theorem step_event {s : OutboxState} (keyed : s.events.Keyed) (call : OutboxCall) (id : String) :
    (s.step call).events.get? id = s.events.get? id ∨
    ∃ old new, s.events.get? id = some old ∧ (s.step call).events.get? id = some new ∧
      EventStep s call id old new := by
  cases call with
  | claim c => exact claim_event keyed c id
  | markPublished m => exact markPublished_event s m id
  | markFailed m => exact markFailed_event s m id
  | recover r => exact recover_event keyed r id

/-- The fields of the event after a step. -/
theorem EventStep.fields {s : OutboxState} {call : OutboxCall} {id : String}
    {old new : OutboxEventRecord} (change : EventStep s call id old new) :
    new.val.eventId = old.val.eventId ∧
    ((new.val.retryCount = old.val.retryCount ∧ new.val.status ≠ .pending) ∨
      (∃ m, call = .markFailed m ∧ m.eventId = id ∧
        eventOwnedByDeliveryAttempt old m.leaseOwner m.leaseAttemptId = true ∧
        new.val.retryCount = old.val.retryCount + 1)) := by
  cases change with
  | claimed c isClaim ready moved =>
      obtain ⟨lineage, fields⟩ := leaseOutboxEvent_returns moved
      rw [fields]
      exact ⟨rfl, Or.inl ⟨rfl, nofun⟩⟩
  | published m isMark target owned moved =>
      obtain ⟨lineage, fields⟩ := markOutboxEventPublished_returns moved
      rw [fields]
      exact ⟨rfl, Or.inl ⟨rfl, nofun⟩⟩
  | failed m isMark target owned retryAt moved =>
      obtain ⟨lineage, fields⟩ := markOutboxEventFailed_returns moved
      rw [fields]
      exact ⟨rfl, Or.inr ⟨m, isMark, target, owned, rfl⟩⟩
  | recovered r isRecovery dead accepted moved =>
      obtain ⟨lineage, fields⟩ := leaseOutboxEvent_returns moved
      rw [fields]
      exact ⟨rfl, Or.inl ⟨rfl, nofun⟩⟩

theorem step_keyed {s : OutboxState} (keyed : s.events.Keyed) (call : OutboxCall) :
    (s.step call).events.Keyed := by
  intro id event stored
  rcases step_event keyed call id with same | ⟨old, new, storedOld, storedNew, change⟩
  · exact keyed id event (same ▸ stored)
  · rw [storedNew] at stored
    cases stored
    rw [change.fields.1]
    exact keyed id old storedOld

theorem run_keyed {s : OutboxState} (keyed : s.events.Keyed) (calls : List OutboxCall) :
    (s.run calls).events.Keyed :=
  Runs.invariant OutboxState.step (fun _ => True) (fun s => s.events.Keyed)
    (fun _ call _ own => step_keyed own call) keyed fun _ _ => trivial

/-! ## Publication is final -/

omit [Sha256] in
theorem owned_status {event : OutboxEventRecord} {leaseOwner leaseAttemptId : String}
    (owned : eventOwnedByDeliveryAttempt event leaseOwner leaseAttemptId = true) :
    event.val.status = .leased ∧ event.val.leaseOwner = some leaseOwner ∧
      event.val.leaseAttemptId = some leaseAttemptId := by
  simpa [eventOwnedByDeliveryAttempt, and_assoc] using owned

omit [Sha256] in
theorem ready_status {event : OutboxEventRecord} {maxRetryCount : Int} {evaluatedAtUtc : DateTime}
    (ready : outboxEventDeliveryReady event maxRetryCount evaluatedAtUtc = true) :
    event.val.status = .pending ∨ event.val.status = .failed ∨ event.val.status = .leased := by
  simp only [outboxEventDeliveryReady, Bool.or_eq_true, Bool.and_eq_true,
    decide_eq_true_eq] at ready
  rcases ready with (pending | failed) | leased
  · exact Or.inl pending
  · exact Or.inr (Or.inl failed.1.1)
  · exact Or.inr (Or.inr leased.1)

theorem EventStep.not_published {s : OutboxState} {call : OutboxCall} {id : String}
    {old new : OutboxEventRecord} (change : EventStep s call id old new) :
    old.val.status ≠ .published := by
  intro published
  cases change with
  | claimed c isClaim ready moved =>
      rcases ready_status ready with status | status | status <;> rw [published] at status <;>
        cases status
  | published m isMark target owned moved =>
      have status := (owned_status owned).1
      rw [published] at status
      cases status
  | failed m isMark target owned retryAt moved =>
      have status := (owned_status owned).1
      rw [published] at status
      cases status
  | recovered r isRecovery dead accepted moved =>
      rw [published] at dead
      cases dead

/-- A published event is the same record after any further calls. -/
def PublishedStays (s later : OutboxState) : Prop :=
  ∀ id event, s.events.get? id = some event → event.val.status = .published →
    later.events.get? id = some event

theorem run_published {s : OutboxState} (keyed : s.events.Keyed) (calls : List OutboxCall) :
    PublishedStays s (s.run calls) := by
  intro id event stored published
  suffices kept : (s.run calls).events.Keyed ∧ (s.run calls).events.get? id = some event from kept.2
  apply Runs.invariant OutboxState.step (fun _ => True)
    (fun s => s.events.Keyed ∧ s.events.get? id = some event) _ ⟨keyed, stored⟩ fun _ _ => trivial
  rintro current call - ⟨own, there⟩
  refine ⟨step_keyed own call, ?_⟩
  rcases step_event own call id with same | ⟨old, new, storedOld, _, change⟩
  · rw [same, there]
  · rw [there] at storedOld
    cases storedOld
    exact absurd published change.not_published

/-! ## Acknowledgements -/

/-- The event and the lease a mark call names. -/
def OutboxCall.acknowledges : OutboxCall → Option (String × String × String)
  | .markPublished m => some (m.eventId, m.leaseOwner, m.leaseAttemptId)
  | .markFailed m => some (m.eventId, m.leaseOwner, m.leaseAttemptId)
  | _ => none

/-- What a worker without the current lease is told. -/
def staleDecision (event : OutboxEventRecord) : OutboxDeliveryDecision :=
  if event.val.status = .published then .alreadyPublished
  else if event.val.status = .deadLetter then .deadLettered
  else .leaseLost

/-- A mark call changes only the event it names, and only for the attempt that
holds its lease; any other attempt is told so and changes nothing. -/
def OnlyHolderMarks (s : OutboxState) (call : OutboxCall) : Prop :=
  ∀ eventId owner attempt, call.acknowledges = some (eventId, owner, attempt) →
    (∀ id, (s.step call).events.get? id ≠ s.events.get? id → id = eventId ∧
      ∃ event, s.events.get? id = some event ∧
        eventOwnedByDeliveryAttempt event owner attempt = true) ∧
    ∀ event, s.events.get? eventId = some event →
      eventOwnedByDeliveryAttempt event owner attempt = false →
      s.step call = s ∧ ∀ answer, (s.perform call).1 = .ok answer →
        answer = .delivery ⟨staleDecision event, some event⟩

omit [Sha256] in
theorem terminal_told {event : OutboxEventRecord} {result : OutboxDeliveryResult}
    (terminal : terminalOutboxDeliveryResult event = some result) :
    result = ⟨staleDecision event, some event⟩ := by
  unfold terminalOutboxDeliveryResult at terminal
  unfold staleDecision
  split at terminal
  · rename_i published
    rw [if_pos published]
    exact (Option.some.inj terminal).symm
  · rename_i notPublished
    rw [if_neg notPublished]
    split at terminal
    · rename_i dead
      rw [if_pos dead]
      exact (Option.some.inj terminal).symm
    · cases terminal

omit [Sha256] in
theorem not_terminal_told {event : OutboxEventRecord}
    (running : terminalOutboxDeliveryResult event = none) : staleDecision event = .leaseLost := by
  unfold terminalOutboxDeliveryResult at running
  unfold staleDecision
  split at running
  · cases running
  · rename_i notPublished
    rw [if_neg notPublished]
    split at running
    · cases running
    · rename_i notDead
      rw [if_neg notDead]

omit [Sha256] in
theorem acknowledge_stale (events : OutboxEvents) (checks : List (Bool × PyError))
    (eventId leaseOwner leaseAttemptId : String)
    (transition : OutboxEventRecord → Except PyError (OutboxDeliveryDecision × OutboxEventRecord))
    {event : OutboxEventRecord} (stored : events.get? eventId = some event)
    (stale : eventOwnedByDeliveryAttempt event leaseOwner leaseAttemptId = false) :
    (acknowledge events checks eventId leaseOwner leaseAttemptId transition).2 = events ∧
    ∀ result, (acknowledge events checks eventId leaseOwner leaseAttemptId transition).1 =
      .ok result → result = ⟨staleDecision event, some event⟩ := by
  unfold acknowledge
  cases validate checks with
  | error raised =>
      refine ⟨rfl, ?_⟩
      intro result run
      cases run
  | ok _ =>
      simp only [stored]
      cases terminal : terminalOutboxDeliveryResult event with
      | some told =>
          refine ⟨rfl, ?_⟩
          intro result run
          cases run
          exact terminal_told terminal
      | none =>
          simp only [stale, Bool.false_eq_true, if_false]
          refine ⟨trivial, ?_⟩
          intro result run
          cases run
          rw [not_terminal_told terminal]

theorem onlyHolderMarks {s : OutboxState} (keyed : s.events.Keyed) (call : OutboxCall) :
    OnlyHolderMarks s call := by
  intro eventId owner attempt named
  refine ⟨?_, ?_⟩
  · intro id changed
    rcases step_event keyed call id with same | ⟨old, new, stored, _, change⟩
    · exact absurd same changed
    · cases change with
      | claimed c isClaim ready moved =>
          subst isClaim
          cases named
      | published m isMark target owned moved =>
          subst isMark
          cases named
          exact ⟨target.symm, old, stored, owned⟩
      | failed m isMark target owned retryAt moved =>
          subst isMark
          cases named
          exact ⟨target.symm, old, stored, owned⟩
      | recovered r isRecovery dead accepted moved =>
          subst isRecovery
          cases named
  · intro event stored stale
    -- both marks are one acknowledgement, whose answer is passed on
    have passedOn : ∀ (checks : List (Bool × PyError)) transition,
        s.step call = { s with events :=
          (acknowledge s.events checks eventId owner attempt transition).2 } →
        (s.perform call).1 =
          (acknowledge s.events checks eventId owner attempt transition).1.map .delivery →
        s.step call = s ∧ ∀ answer, (s.perform call).1 = .ok answer →
          answer = .delivery ⟨staleDecision event, some event⟩ := by
      intro checks transition next answered
      obtain ⟨unchanged, told⟩ := acknowledge_stale s.events checks eventId owner attempt transition
        stored stale
      refine ⟨by rw [next, unchanged], ?_⟩
      intro answer run
      rw [answered] at run
      cases result : (acknowledge s.events checks eventId owner attempt transition).1 with
      | error raised =>
          rw [result] at run
          cases run
      | ok given =>
          rw [result] at run
          cases run
          rw [told given result]
    cases call with
    | claim c => cases named
    | recover r => cases named
    | markPublished m =>
        cases named
        exact passedOn m.checks _ rfl rfl
    | markFailed m =>
        cases named
        exact passedOn m.checks _ rfl rfl

/-! ## Retries, dead letters and arguments -/

/-- The failure that a call applies to the event under `id`. -/
def appliesFailure (s : OutboxState) (call : OutboxCall) (id : String) : Bool :=
  match call with
  | .markFailed m =>
      m.eventId = id && (match (s.perform call).1 with | .ok _ => true | .error _ => false) &&
        (s.events.get? id).any fun event =>
          eventOwnedByDeliveryAttempt event m.leaseOwner m.leaseAttemptId
  | _ => false

/-- Each applied failure counts once, and nothing else changes the counter. -/
def RetriesCounted (s : OutboxState) (call : OutboxCall) : Prop :=
  ∀ id old, s.events.get? id = some old → ∃ new, (s.step call).events.get? id = some new ∧
    new.val.retryCount = old.val.retryCount + (if appliesFailure s call id then 1 else 0)

/-- Only an accepted recovery takes an event out of the dead letters. -/
def LeavesDeadLetterByRecovery (s : OutboxState) (call : OutboxCall) : Prop :=
  ∀ id old new, s.events.get? id = some old → old.val.status = .deadLetter →
    (s.step call).events.get? id = some new → new.val.status ≠ .deadLetter →
    acceptsRecovery (s.perform call).1 id = true

theorem leavesDeadLetterByRecovery {s : OutboxState} (keyed : s.events.Keyed) (call : OutboxCall) :
    LeavesDeadLetterByRecovery s call := by
  intro id old new stored dead storedNew left
  rcases step_event keyed call id with same | ⟨before, after, storedBefore, storedAfter, change⟩
  · rw [same, stored] at storedNew
    cases storedNew
    exact absurd dead left
  · rw [stored] at storedBefore
    cases storedBefore
    cases change with
    | claimed c isClaim ready moved =>
        rcases ready_status ready with status | status | status <;> rw [dead] at status <;>
          cases status
    | published m isMark target owned moved =>
        have status := (owned_status owned).1
        rw [dead] at status
        cases status
    | failed m isMark target owned retryAt moved =>
        have status := (owned_status owned).1
        rw [dead] at status
        cases status
    | recovered r isRecovery _ accepted moved => exact accepted

omit [Sha256] in
theorem acknowledge_owned (events : OutboxEvents) {checks : List (Bool × PyError)}
    {eventId leaseOwner leaseAttemptId : String}
    (transition : OutboxEventRecord → Except PyError (OutboxDeliveryDecision × OutboxEventRecord))
    {event : OutboxEventRecord} (passed : validate checks = .ok ())
    (stored : events.get? eventId = some event)
    (owned : eventOwnedByDeliveryAttempt event leaseOwner leaseAttemptId = true) :
    acknowledge events checks eventId leaseOwner leaseAttemptId transition =
      match transition event with
      | .error raised => (.error raised, events)
      | .ok (decision, updated) => (.ok ⟨decision, some updated⟩, events.set eventId updated) := by
  have status := (owned_status owned).1
  have running : terminalOutboxDeliveryResult event = none := by
    simp [terminalOutboxDeliveryResult, status]
  simp only [acknowledge, passed, stored, running, owned, if_true] <;> rfl

theorem markFailed_counted (s : OutboxState) (m : MarkFailedRequest) {old : OutboxEventRecord}
    (stored : s.events.get? m.eventId = some old) :
    ∃ new, (s.step (.markFailed m)).events.get? m.eventId = some new ∧
      new.val.retryCount = old.val.retryCount +
        (if appliesFailure s (.markFailed m) m.eventId then 1 else 0) := by
  cases owned : eventOwnedByDeliveryAttempt old m.leaseOwner m.leaseAttemptId with
  | false =>
      obtain ⟨unchanged, _⟩ := acknowledge_stale s.events m.checks m.eventId m.leaseOwner
        m.leaseAttemptId (failOwned m) stored owned
      refine ⟨old, ?_, by simp [appliesFailure, stored, owned]⟩
      simp only [OutboxState.step, OutboxState.perform, markOwnedOutboxEventFailed, unchanged,
        stored]
  | true =>
      cases passed : validate m.checks with
      | error raised =>
          refine ⟨old, ?_, ?_⟩
          · simp only [OutboxState.step, OutboxState.perform, markOwnedOutboxEventFailed,
              acknowledge, passed, stored]
          · simp [appliesFailure, OutboxState.perform, markOwnedOutboxEventFailed, acknowledge,
              passed, Except.map]
      | ok _ =>
          have evaluated := acknowledge_owned s.events (failOwned m) passed stored owned
          cases moved : failOwned m old with
          | error raised =>
              rw [moved] at evaluated
              refine ⟨old, ?_, ?_⟩
              · simp only [OutboxState.step, OutboxState.perform, markOwnedOutboxEventFailed,
                  evaluated, stored]
              · simp [appliesFailure, OutboxState.perform, markOwnedOutboxEventFailed, evaluated,
                  Except.map]
          | ok outcome =>
              obtain ⟨decision, updated⟩ := outcome
              rw [moved] at evaluated
              obtain ⟨retryAt, failed⟩ := failOwned_returns moved
              obtain ⟨lineage, fields⟩ := markOutboxEventFailed_returns failed
              refine ⟨updated, ?_, ?_⟩
              · simp only [OutboxState.step, OutboxState.perform, markOwnedOutboxEventFailed,
                  evaluated, Dict.get?_set_self]
              · have applied : appliesFailure s (.markFailed m) m.eventId = true := by
                  simp [appliesFailure, OutboxState.perform, markOwnedOutboxEventFailed, evaluated,
                    Except.map, stored, owned]
                rw [if_pos applied, fields]
                rfl

theorem retriesCounted {s : OutboxState} (keyed : s.events.Keyed) (call : OutboxCall) :
    RetriesCounted s call := by
  intro id old stored
  by_cases failing : ∃ m, call = .markFailed m ∧ m.eventId = id
  · obtain ⟨m, rfl, rfl⟩ := failing
    exact markFailed_counted s m stored
  · have uncounted : appliesFailure s call id = false := by
      cases call with
      | markFailed m =>
          have other : m.eventId ≠ id := fun same => failing ⟨m, rfl, same⟩
          simp [appliesFailure, other]
      | claim c => rfl
      | markPublished m => rfl
      | recover r => rfl
    rw [uncounted]
    rcases step_event keyed call id with same | ⟨before, new, storedBefore, storedNew, change⟩
    · exact ⟨old, same.trans stored, by simp⟩
    · rw [stored] at storedBefore
      cases storedBefore
      rcases change.fields.2 with ⟨kept, _⟩ | ⟨m, isMark, target, _, _⟩
      · exact ⟨new, storedNew, by simp [kept]⟩
      · exact absurd ⟨m, isMark, target⟩ failing

/-- The checks a call makes of its own arguments. -/
def OutboxCall.argumentChecks (s : OutboxState) : OutboxCall → List (Bool × PyError)
  | .claim c => c.checks
  | .markPublished m => m.checks
  | .markFailed m =>
      m.checks ++ failureReasonChecks m.failureReason ++
        [requirePositive m.maxRetryCount "max_retry_count"] ++
        match s.events.get? m.eventId, m.nextAttemptAtUtc with
        | some event, some next =>
            nextAttemptChecks (statusAfterFailure event.val.retryCount m.maxRetryCount)
              m.failedAtUtc (some next)
        | _, _ => []
  | .recover r => r.entryChecks ++ r.auditArgumentChecks

/-- Whatever a call raises, one of its own argument checks raised it; the event
constructor never does. -/
def RaisesOnlyOnArguments (s : OutboxState) (call : OutboxCall) : Prop :=
  ∀ error, (s.perform call).1 = .error error → (true, error) ∈ call.argumentChecks s

omit [Sha256] in
theorem validate_raises {checks : List (Bool × PyError)} {error : PyError}
    (raised : validate checks = .error error) : (true, error) ∈ checks :=
  firstFailure_mem (validate_eq_error.mp raised)

theorem leaseEach_returns (c : OutboxClaimRequest)
    (passed : firstFailure (leaseArgumentChecks c.leaseOwner c.leaseAttemptId c.leaseExpiresAtUtc) =
      none)
    (ready : List OutboxEventRecord) (events : OutboxEvents) (claimed : List OutboxEventRecord) :
    ∃ leased, (leaseEach c ready events claimed).1 = .ok leased := by
  induction ready generalizing events claimed with
  | nil => exact ⟨claimed, rfl⟩
  | cons event rest ih =>
      obtain ⟨leased, run, _⟩ := leaseOutboxEvent_succeeds event passed
      simp only [leaseEach, run]
      exact ih _ _

theorem claim_raises {s : OutboxState} {c : OutboxClaimRequest} {error : PyError}
    (run : (s.perform (.claim c)).1 = .error error) : (true, error) ∈ c.checks := by
  simp only [OutboxState.perform, claimOutboxEventsForDelivery] at run
  cases passed : validate c.checks with
  | error raised =>
      rw [passed] at run
      cases run
      exact validate_raises passed
  | ok _ =>
      have all := validate_eq_ok.mp passed
      simp only [OutboxClaimRequest.checks, firstFailure_append, firstFailure_cons,
        firstFailure_nil, requireText_passes, firstFailure_requireAwareUtc, and_true] at all
      obtain ⟨⟨⟨⟨limit, retries, owner, attempt⟩, claimedAt⟩, expires⟩, _⟩ := all
      have fetched : validate ([requirePositive c.limit "limit",
          requirePositive c.maxRetryCount "max_retry_count"] ++
          requireAwareUtc c.claimedAtUtc "evaluated_at_utc") = .ok () := by
        rw [validate_eq_ok]
        simp [limit, retries, claimedAt]
      have leasable : firstFailure
          (leaseArgumentChecks c.leaseOwner c.leaseAttemptId c.leaseExpiresAtUtc) = none := by
        simp [leaseArgumentChecks, owner, attempt, expires]
      cases delivered : outboxEventsForDelivery s.events c.limit c.maxRetryCount c.claimedAtUtc with
      | error raised =>
          simp only [outboxEventsForDelivery, fetched] at delivered
          cases delivered
      | ok ready =>
          obtain ⟨leased, done⟩ := leaseEach_returns c leasable ready s.events []
          simp only [passed, delivered, done] at run
          cases run

omit [Sha256] in
/-- An acknowledgement raises what its checks or its transition raise. -/
theorem acknowledge_raises {events : OutboxEvents} {checks : List (Bool × PyError)}
    {eventId leaseOwner leaseAttemptId : String}
    {transition : OutboxEventRecord → Except PyError (OutboxDeliveryDecision × OutboxEventRecord)}
    {error : PyError}
    (run : (acknowledge events checks eventId leaseOwner leaseAttemptId transition).1 =
      .error error) :
    (true, error) ∈ checks ∨
      (validate checks = .ok () ∧ ∃ event, events.get? eventId = some event ∧
        transition event = .error error) := by
  unfold acknowledge at run
  cases passed : validate checks with
  | error raised =>
      rw [passed] at run
      cases run
      exact Or.inl (validate_raises passed)
  | ok _ =>
      simp only [passed] at run
      cases stored : events.get? eventId with
      | none =>
          rw [stored] at run
          cases run
      | some event =>
          simp only [stored] at run
          split at run
          · cases run
          · split at run
            · cases moved : transition event with
              | error raised =>
                  rw [moved] at run
                  cases run
                  exact Or.inr ⟨rfl, event, rfl, moved⟩
              | ok outcome =>
                  rw [moved] at run
                  cases run
            · cases run

theorem markPublished_raises {s : OutboxState} {m : MarkPublishedRequest} {error : PyError}
    (run : (s.perform (.markPublished m)).1 = .error error) : (true, error) ∈ m.checks := by
  simp only [OutboxState.perform, markOwnedOutboxEventPublished] at run
  cases answer : (acknowledge s.events m.checks m.eventId m.leaseOwner m.leaseAttemptId
      fun event => (markOutboxEventPublished event m.publishedAtUtc).map fun updated =>
        (.accepted, updated)).1 with
  | ok result =>
      rw [answer] at run
      cases run
  | error raised =>
      rw [answer] at run
      cases run
      rcases acknowledge_raises answer with own | ⟨passed, event, _, moved⟩
      · exact own
      · have all := validate_eq_ok.mp passed
        simp only [MarkPublishedRequest.checks, firstFailure_append,
          firstFailure_requireAwareUtc] at all
        obtain ⟨updated, written⟩ := markOutboxEventPublished_succeeds event all.2
        rw [written] at moved
        cases moved

omit [Sha256] in
/-- The backoff's attempt time suits the status after the failure. -/
theorem backoff_suits {event : OutboxEventRecord} {failedAtUtc : DateTime} {maxRetryCount : Int}
    {retryAt : Option DateTime} (utc : failedAtUtc.isUtc = true)
    (run : nextOutboxRetryAttemptAtUtc event failedAtUtc maxRetryCount = .ok retryAt) :
    firstFailure (nextAttemptChecks (statusAfterFailure event.val.retryCount maxRetryCount)
      failedAtUtc retryAt) = none := by
  simp only [nextOutboxRetryAttemptAtUtc] at run
  obtain ⟨_, _, run⟩ := Except.seq_returns.mp run
  have delayed : 0 < retryDelaySeconds event.val.retryCount := by
    simp only [retryDelaySeconds, retryBackoffBaseSeconds, retryBackoffMaxSeconds, lt_min_iff]
    exact ⟨by positivity, by omega⟩
  split at run
  · rename_i exhausted
    cases run
    simp [statusAfterFailure, exhausted, nextAttemptChecks]
  · rename_i retryable
    cases run
    have later : ¬ failedAtUtc.shift (retryDelaySeconds event.val.retryCount * 1000000) ≤
        failedAtUtc := by
      simp only [DateTime.le_def, DateTime.shift]
      omega
    simp [statusAfterFailure, retryable, nextAttemptChecks, utc, later]

theorem failOwned_raises {m : MarkFailedRequest} {event : OutboxEventRecord} {error : PyError}
    (utc : m.failedAtUtc.isUtc = true) (run : failOwned m event = .error error) :
    (true, error) ∈ failureReasonChecks m.failureReason ++
      [requirePositive m.maxRetryCount "max_retry_count"] ++
      match m.nextAttemptAtUtc with
      | some next =>
          nextAttemptChecks (statusAfterFailure event.val.retryCount m.maxRetryCount)
            m.failedAtUtc (some next)
      | none => [] := by
  have utcPasses : firstFailure (requireAwareUtc m.failedAtUtc "failed_at_utc") = none :=
    firstFailure_requireAwareUtc.mpr utc
  have noUtcError : (true, error) ∉ requireAwareUtc m.failedAtUtc "failed_at_utc" := by
    intro member
    have passed := firstFailure_eq_none.mp utcPasses _ member
    cases passed
  -- the failure itself raises only through its argument checks
  have fromFailure : ∀ retryAt, markOutboxEventFailed event m.failureReason m.failedAtUtc
      m.maxRetryCount retryAt = .error error →
      (true, error) ∈ failureArgumentChecks event m.failureReason m.failedAtUtc m.maxRetryCount
        retryAt := by
    intro retryAt moved
    cases passed : firstFailure (failureArgumentChecks event m.failureReason m.failedAtUtc
        m.maxRetryCount retryAt) with
    | none =>
        obtain ⟨updated, written⟩ := markOutboxEventFailed_succeeds passed
        rw [written] at moved
        cases moved
    | some raised =>
        simp only [markOutboxEventFailed, validate_eq_error.mpr passed] at moved
        cases moved
        exact firstFailure_mem passed
  have placed : ∀ retryAt, (true, error) ∈ failureArgumentChecks event m.failureReason
      m.failedAtUtc m.maxRetryCount retryAt →
      (true, error) ∈ failureReasonChecks m.failureReason ∨
      (true, error) = requirePositive m.maxRetryCount "max_retry_count" ∨
      (true, error) ∈ nextAttemptChecks
        (statusAfterFailure event.val.retryCount m.maxRetryCount) m.failedAtUtc retryAt := by
    intro retryAt member
    simp only [failureArgumentChecks, List.mem_append, List.mem_singleton] at member
    rcases member with ((reason | time) | positive) | attempt
    · exact Or.inl reason
    · exact absurd time noUtcError
    · exact Or.inr (Or.inl positive)
    · exact Or.inr (Or.inr attempt)
  simp only [failOwned] at run
  simp only [List.mem_append, List.mem_singleton]
  rcases Except.seq_raises.mp run with early | ⟨retryAt, chosen, run⟩
  · unfold MarkFailedRequest.retryAt at early
    split at early
    · cases early
    · simp only [nextOutboxRetryAttemptAtUtc] at early
      rcases Except.seq_raises.mp early with raised | ⟨_, _, rest⟩
      · have member := validate_raises raised
        rw [List.mem_append, List.mem_singleton] at member
        rcases member with time | positive
        · exact absurd time noUtcError
        · exact Or.inl (Or.inr positive)
      · split at rest <;> cases rest
  · rcases Except.seq_raises.mp run with raised | ⟨updated, _, rest⟩
    · rcases placed retryAt (fromFailure retryAt raised) with reason | positive | attempt
      · exact Or.inl (Or.inl reason)
      · exact Or.inl (Or.inr positive)
      · unfold MarkFailedRequest.retryAt at chosen
        split at chosen
        · rename_i given same
          cases chosen
          refine Or.inr ?_
          simpa only [same] using attempt
        · have suits := backoff_suits utc chosen
          have passed := firstFailure_eq_none.mp suits _ attempt
          cases passed
    · cases rest

theorem markFailed_raises {s : OutboxState} {m : MarkFailedRequest} {error : PyError}
    (run : (s.perform (.markFailed m)).1 = .error error) :
    (true, error) ∈ OutboxCall.argumentChecks s (.markFailed m) := by
  simp only [OutboxState.perform, markOwnedOutboxEventFailed] at run
  cases answer : (acknowledge s.events m.checks m.eventId m.leaseOwner m.leaseAttemptId
      (failOwned m)).1 with
  | ok result =>
      rw [answer] at run
      cases run
  | error raised =>
      rw [answer] at run
      cases run
      simp only [OutboxCall.argumentChecks, List.append_assoc]
      rcases acknowledge_raises answer with own | ⟨passed, event, stored, moved⟩
      · exact List.mem_append_left _ own
      · refine List.mem_append_right _ ?_
        have all := validate_eq_ok.mp passed
        simp only [MarkFailedRequest.checks, firstFailure_append,
          firstFailure_requireAwareUtc] at all
        have member := failOwned_raises all.2 moved
        rw [stored]
        cases given : m.nextAttemptAtUtc with
        | none => simpa [given] using member
        | some next => simpa [given] using member

omit [Sha256] in
theorem dead_letter_fields {event : OutboxEventRecord} (dead : event.val.status = .deadLetter) :
    ∃ reason first last, event.val.failureReason = some reason ∧
      event.val.firstFailedAtUtc = some first ∧ event.val.lastFailedAtUtc = some last := by
  obtain ⟨_, _, _, _, status, _⟩ := OutboxEventFields.checks_pass.mp event.valid
  have blank : PyText.isBlank "" = true := rfl
  cases reason : event.val.failureReason <;> cases first : event.val.firstFailedAtUtc <;>
    cases last : event.val.lastFailedAtUtc <;>
      simp [OutboxEventFields.statusChecks, dead, reason, first, last, blank] at status
  exact ⟨_, _, _, rfl, rfl, rfl⟩

theorem buildAudit_raises {event : OutboxEventRecord} {r : OutboxRecoveryRequest} {error : PyError}
    (dead : event.val.status = .deadLetter)
    (run : buildOutboxRecoveryAuditRecord event r = .error error) :
    (true, error) ∈ r.auditArgumentChecks := by
  simp only [buildOutboxRecoveryAuditRecord] at run
  rcases Except.seq_raises.mp run with raised | ⟨_, _, rest⟩
  · have member := validate_raises raised
    rw [OutboxRecoveryRequest.auditChecks, List.mem_cons] at member
    rcases member with status | own
    · simp [dead] at status
    · exact own
  · obtain ⟨reason, first, last, hasReason, hasFirst, hasLast⟩ := dead_letter_fields dead
    simp only [hasReason, hasFirst, hasLast] at rest
    cases rest

theorem buildAudit_arguments {event : OutboxEventRecord} {r : OutboxRecoveryRequest}
    {auditRecord : OutboxRecoveryAuditRecord}
    (built : buildOutboxRecoveryAuditRecord event r = .ok auditRecord) :
    firstFailure r.auditArgumentChecks = none := by
  simp only [buildOutboxRecoveryAuditRecord] at built
  obtain ⟨_, passed, _⟩ := Except.seq_returns.mp built
  have all := validate_eq_ok.mp passed
  rw [OutboxRecoveryRequest.auditChecks, firstFailure_cons] at all
  exact all.2

theorem recover_raises {s : OutboxState} {r : OutboxRecoveryRequest} {error : PyError}
    (run : (s.perform (.recover r)).1 = .error error) :
    (true, error) ∈ r.entryChecks ++ r.auditArgumentChecks := by
  rw [List.mem_append]
  cases answer : (claimDeadLetterForRecovery s r).1 with
  | ok result => simp [OutboxState.perform, answer, Except.map] at run
  | error raised =>
      have same : raised = error := by simpa [OutboxState.perform, answer, Except.map] using run
      subst same
      unfold claimDeadLetterForRecovery at answer
      cases passed : validate r.entryChecks with
      | error own =>
          rw [passed] at answer
          cases answer
          exact Or.inl (validate_raises passed)
      | ok _ =>
          simp only [passed] at answer
          split at answer
          · split at answer <;> cases answer
          · split at answer
            · cases answer
            · rename_i event _
              split at answer
              · cases answer
              · rename_i free
                have dead := (blockedRecoveryClaim_none free).1
                unfold acceptRecoveryClaim at answer
                cases built : buildOutboxRecoveryAuditRecord event r with
                | error own =>
                    rw [built] at answer
                    cases answer
                    exact Or.inr (buildAudit_raises dead built)
                | ok auditRecord =>
                    have all := buildAudit_arguments built
                    simp only [OutboxRecoveryRequest.auditArgumentChecks, firstFailure_cons,
                      firstFailure_append, requireText_passes,
                      firstFailure_requireAwareUtc] at all
                    have leasable : firstFailure (leaseArgumentChecks r.leaseOwner r.leaseAttemptId
                        r.leaseExpiresAtUtc) = none := by
                      simp [leaseArgumentChecks, all]
                    obtain ⟨leased, moved, _⟩ := leaseOutboxEvent_succeeds event leasable
                    simp only [built, moved] at answer
                    cases answer

theorem raisesOnlyOnArguments (s : OutboxState) (call : OutboxCall) :
    RaisesOnlyOnArguments s call := by
  intro error run
  cases call with
  | claim c => exact claim_raises run
  | markPublished m => exact markPublished_raises run
  | markFailed m => exact markFailed_raises run
  | recover r => exact recover_raises run

end LotusIdea

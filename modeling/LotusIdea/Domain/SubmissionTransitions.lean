import LotusIdea.Domain.DownstreamSubmission
import LotusIdea.Foundation.OrderedDict

/-!
# Claim, finalize and reconcile

The three writers of a submission record: the claim that creates it, the
dispatching worker that finalizes it under its lease, and the operator who
reconciles it.  The store operations are those of the in-memory repository
mixin, which keys records by tenant and idempotency key.
-/

set_option autoImplicit false

namespace LotusIdea

variable [Sha256]

/-! ## Record operations -/

/-- `_audit_entry`. -/
def auditEntry (tenantId idempotencyKey : String) (sequence : Nat)
    (action : DownstreamSubmissionAuditAction) (actorSubject : String)
    (currentPosture : DownstreamSubmissionPosture) (occurredAtUtc : DateTime)
    (previousPosture : Option DownstreamSubmissionPosture := none)
    (reason changeReference : Option String := none) :
    Except PyError DownstreamSubmissionAuditEntry := do
  validate (identityChecks tenantId idempotencyKey)
  let identity := Sha256.hexdigest 24
    (downstreamSubmissionIdentity tenantId idempotencyKey ++ ":" ++ toString sequence ++ ":" ++
      action.value)
  Checked.make AuditEntryFields.checks
    { auditId := "downstream-audit-" ++ identity
      action := action
      actorSubject := actorSubject
      previousPosture := previousPosture
      currentPosture := currentPosture
      occurredAtUtc := occurredAtUtc
      reason := reason
      changeReference := changeReference }

/-- The keyword arguments of `create_downstream_submission_claim`. -/
structure ClaimRequest where
  tenantId : String
  idempotencyKey : String
  requestFingerprint : String
  resourceType : DownstreamSubmissionResourceType
  resourceId : String
  target : ConversionTarget
  sourceAuthority : SourceSystem
  actorSubject : String
  claimedAtUtc : DateTime
  leaseOwner : String
  leaseAttemptId : String
  leaseExpiresAtUtc : DateTime
  correlationId : Option String := none
  traceId : Option String := none

def createDownstreamSubmissionClaim (c : ClaimRequest) :
    Except PyError DownstreamSubmissionRecord := do
  let audit ← auditEntry c.tenantId c.idempotencyKey 1 .claimed c.actorSubject .inFlight
    c.claimedAtUtc
  Checked.make SubmissionFields.checks
    { tenantId := c.tenantId
      identityVersion := .tenantScopedV2
      idempotencyKey := c.idempotencyKey
      requestFingerprint := c.requestFingerprint
      resourceType := c.resourceType
      resourceId := c.resourceId
      target := c.target
      sourceAuthority := c.sourceAuthority
      status := .inFlight
      submittedAtUtc := c.claimedAtUtc
      supportReference := downstreamSubmissionSupportReference c.tenantId c.idempotencyKey
      attemptCount := 1
      updatedAtUtc := c.claimedAtUtc
      auditHistory := [audit]
      correlationId := c.correlationId
      traceId := c.traceId
      leaseOwner := some c.leaseOwner
      leaseAttemptId := some c.leaseAttemptId
      leaseExpiresAtUtc := some c.leaseExpiresAtUtc }

def evaluateDownstreamSubmissionClaim (existing : Option DownstreamSubmissionRecord)
    (requestFingerprint : String) : DownstreamSubmissionClaimDecision :=
  match existing with
  | none => .accepted
  | some record =>
      if record.val.requestFingerprint ≠ requestFingerprint then .conflict
      else if record.val.status = .inFlight ∨ record.val.status = .reconciliationRequired ∨
          record.val.status = .quarantined then .reconciliationRequired
      else .replayed

/-- The keyword arguments of `_transition_record`. -/
structure PostureChange where
  posture : DownstreamSubmissionPosture
  action : DownstreamSubmissionAuditAction
  actorSubject : String
  occurredAtUtc : DateTime
  reason : Option String
  recordFailureReason : Option String := none
  changeReference : Option String := none
  ownerReceipt : Option DownstreamSubmissionOwnerReceipt := none

/-- The fields after a change of posture, `audit` being its audit entry. -/
def SubmissionFields.changed (r : SubmissionFields) (change : PostureChange)
    (audit : DownstreamSubmissionAuditEntry) : SubmissionFields :=
  { r with
    status := change.posture
    updatedAtUtc := change.occurredAtUtc
    downstreamFailureReason := change.recordFailureReason
    auditHistory := r.auditHistory ++ [audit]
    ownerReceipt := change.ownerReceipt.or r.ownerReceipt }

/-- `_transition_record`. -/
def transitionRecord (record : DownstreamSubmissionRecord) (change : PostureChange) :
    Except PyError DownstreamSubmissionRecord := do
  let audit ← auditEntry record.val.tenantId record.val.idempotencyKey
    (record.val.auditHistory.length + 1) change.action change.actorSubject change.posture
    change.occurredAtUtc (some record.val.status) change.reason change.changeReference
  Checked.make SubmissionFields.checks (record.val.changed change audit)

def leaseBlocker (record : DownstreamSubmissionRecord) (leaseOwner leaseAttemptId : String) :
    Except PyError (Option String) := do
  validate [requireText leaseOwner "lease_owner", requireText leaseAttemptId "lease_attempt_id"]
  if record.val.leaseOwner ≠ some leaseOwner ∨ record.val.leaseAttemptId ≠ some leaseAttemptId then
    return some "downstream_submission_lease_conflict"
  else
    return none

/-- The keyword arguments of `finalize_downstream_submission`. -/
structure FinalizeRequest where
  leaseOwner : String
  leaseAttemptId : String
  posture : DownstreamSubmissionPosture
  finalizedAtUtc : DateTime
  failureReason : Option String := none
  ownerReceipt : Option DownstreamSubmissionOwnerReceipt := none

/-- The postures and receipts a finalize may bring. -/
def FinalizeRequest.checks (f : FinalizeRequest) (record : DownstreamSubmissionRecord) :
    List (Bool × PyError) :=
  [(!(SubmissionFields.isTerminalDownstream f.posture || f.posture = .notConfigured ||
       f.posture = .reconciliationRequired),
     .valueError "unsupported downstream submission final posture"),
   (f.ownerReceipt.isSome && !SubmissionFields.isTerminalDownstream f.posture,
     .valueError "owner_receipt requires a terminal downstream posture"),
   (f.ownerReceipt.any fun receipt => receipt.val.ownerAuthority ≠ record.val.sourceAuthority,
     .valueError "owner_receipt authority must match source_authority")]

def FinalizeRequest.change (f : FinalizeRequest) : PostureChange where
  posture := f.posture
  action :=
    if f.posture = .reconciliationRequired then .reconciliationRequired else .finalized
  actorSubject := f.leaseOwner
  occurredAtUtc := f.finalizedAtUtc
  reason := f.failureReason
  recordFailureReason := f.failureReason
  ownerReceipt := f.ownerReceipt

def finalizeDownstreamSubmission (record : DownstreamSubmissionRecord) (f : FinalizeRequest) :
    Except PyError DownstreamSubmissionMutationResult := do
  let leaseError ← leaseBlocker record f.leaseOwner f.leaseAttemptId
  match leaseError with
  | some blocker => return ⟨.leaseConflict, some record, some blocker⟩
  | none =>
      if record.val.status ≠ .inFlight then
        return ⟨.invalidState, some record, some "downstream_submission_not_in_flight"⟩
      else
        validate (f.checks record)
        let updated ← transitionRecord record f.change
        return ⟨.accepted, some updated, none⟩

/-- The keyword arguments of `reconcile_downstream_submission`. -/
structure ReconcileRequest where
  resolution : DownstreamSubmissionResolution
  actorSubject : String
  reason : String
  changeReference : String
  reconciledAtUtc : DateTime
  ownerReceipt : Option DownstreamSubmissionOwnerReceipt := none

namespace ReconcileRequest

/-- What the operation asks of its arguments and of the receipt's authority. -/
def checks (q : ReconcileRequest) (record : DownstreamSubmissionRecord) :
    List (Bool × PyError) :=
  [requireText q.actorSubject "actor_subject", requireText q.reason "reason",
   requireText q.changeReference "change_reference"] ++
  requireAwareUtc q.reconciledAtUtc "reconciled_at_utc" ++
  [(q.ownerReceipt.isSome && q.resolution = .quarantined,
     .valueError "quarantined reconciliation forbids an owner receipt"),
   (q.ownerReceipt.any fun receipt => receipt.val.ownerAuthority ≠ record.val.sourceAuthority,
     .valueError "owner_receipt authority must match source_authority")]

/-- `report_progress`: only Report receipts are compared with the stored one. -/
def reportProgress (q : ReconcileRequest) (record : DownstreamSubmissionRecord) :
    Option ReportOwnerReceiptProgress :=
  match q.ownerReceipt, record.val.ownerReceipt with
  | some proposed, some current =>
      if record.val.sourceAuthority = .lotusReport then
        some (classifyReportOwnerReceiptProgress current proposed)
      else none
  | _, _ => none

def change (q : ReconcileRequest) : PostureChange where
  posture := q.resolution.posture
  action := if q.resolution = .quarantined then .quarantined else .reconciled
  actorSubject := q.actorSubject
  occurredAtUtc := q.reconciledAtUtc
  reason := some q.reason
  recordFailureReason := if q.resolution = .acceptedByDownstream then none else some q.reason
  changeReference := some q.changeReference
  ownerReceipt := q.ownerReceipt

/-- The last audit entry is the one this request would have written. -/
def repeats (q : ReconcileRequest) (record : DownstreamSubmissionRecord)
    (last : DownstreamSubmissionAuditEntry) : Bool :=
  last.val.currentPosture = q.resolution.posture && last.val.actorSubject = q.actorSubject &&
    last.val.reason = some q.reason && record.val.ownerReceipt = q.ownerReceipt

def reconcilable (q : ReconcileRequest) (record : DownstreamSubmissionRecord) : Bool :=
  record.val.status = .inFlight || record.val.status = .reconciliationRequired ||
    (record.val.status = .acceptedByDownstream &&
      q.resolution.posture = .acceptedByDownstream &&
      q.reportProgress record = some .advanced)

end ReconcileRequest

/-- `record.audit_history[-1]`. -/
def lastAudit (record : DownstreamSubmissionRecord) : DownstreamSubmissionAuditEntry :=
  record.val.auditHistory.getLast record.wellFormed.auditHistory

def reconcileDownstreamSubmission (record : DownstreamSubmissionRecord) (q : ReconcileRequest) :
    Except PyError DownstreamSubmissionMutationResult := do
  validate (q.checks record)
  if q.reportProgress record = some .exactReplay then
    return ⟨.replayed, some record, none⟩
  else if q.reportProgress record = some .conflict then
    return ⟨.invalidState, some record, some "downstream_submission_owner_version_conflict"⟩
  else if (lastAudit record).val.changeReference = some q.changeReference then
    if q.repeats record (lastAudit record) then
      return ⟨.replayed, some record, none⟩
    else
      return ⟨.invalidState, some record, some "downstream_submission_change_reference_conflict"⟩
  else if !q.reconcilable record then
    return ⟨.invalidState, some record, some "downstream_submission_not_reconcilable"⟩
  else
    let updated ← transitionRecord record q.change
    return ⟨.accepted, some updated, none⟩

/-! ## What each record operation can do -/

theorem auditEntry_returns {tenantId idempotencyKey : String} {sequence : Nat}
    {action : DownstreamSubmissionAuditAction} {actorSubject : String}
    {currentPosture : DownstreamSubmissionPosture} {occurredAtUtc : DateTime}
    {previousPosture : Option DownstreamSubmissionPosture} {reason changeReference : Option String}
    {audit : DownstreamSubmissionAuditEntry}
    (run : auditEntry tenantId idempotencyKey sequence action actorSubject currentPosture
      occurredAtUtc previousPosture reason changeReference = .ok audit) :
    audit.val.action = action ∧ audit.val.actorSubject = actorSubject ∧
      audit.val.currentPosture = currentPosture ∧ audit.val.previousPosture = previousPosture ∧
      audit.val.reason = reason ∧ audit.val.changeReference = changeReference := by
  simp only [auditEntry] at run
  obtain ⟨_, _, made⟩ := Except.seq_returns.mp run
  have fields := Checked.make_eq_ok.mp made
  rw [fields]
  exact ⟨rfl, rfl, rfl, rfl, rfl, rfl⟩

/-- An entry is written when its actor and texts are not blank and its time is
in UTC. -/
theorem auditEntry_succeeds {tenantId idempotencyKey : String} (sequence : Nat)
    (action : DownstreamSubmissionAuditAction) {actorSubject : String}
    (currentPosture : DownstreamSubmissionPosture) {occurredAtUtc : DateTime}
    (previousPosture : Option DownstreamSubmissionPosture) {reason changeReference : Option String}
    (tenant : PyText.isBlank tenantId = false) (key : PyText.isBlank idempotencyKey = false)
    (actor : PyText.isBlank actorSubject = false) (utc : occurredAtUtc.isUtc = true)
    (hasReason : reason.any PyText.isBlank = false)
    (reference : changeReference.any PyText.isBlank = false) :
    ∃ audit, auditEntry tenantId idempotencyKey sequence action actorSubject currentPosture
      occurredAtUtc previousPosture reason changeReference = .ok audit := by
  have identity : validate (identityChecks tenantId idempotencyKey) = .ok () := by
    simp [validate_eq_ok, identityChecks, tenant, key]
  have visible : ∀ digest, PyText.isBlank ("downstream-audit-" ++ digest) = false :=
    fun digest => PyText.isBlank_append_of_left digest (by decide)
  unfold auditEntry
  rw [identity]
  refine ⟨_, Checked.make_of_valid ?_⟩
  simp [AuditEntryFields.checks, visible, actor, utc, hasReason, reference]

theorem transitionRecord_returns {record updated : DownstreamSubmissionRecord}
    {change : PostureChange} (run : transitionRecord record change = .ok updated) :
    ∃ audit : DownstreamSubmissionAuditEntry,
      audit.val.action = change.action ∧ audit.val.actorSubject = change.actorSubject ∧
      audit.val.currentPosture = change.posture ∧
      audit.val.previousPosture = some record.val.status ∧
      audit.val.reason = change.reason ∧ audit.val.changeReference = change.changeReference ∧
      updated.val = record.val.changed change audit := by
  simp only [transitionRecord] at run
  obtain ⟨audit, written, made⟩ := Except.seq_returns.mp run
  obtain ⟨action, actor, current, previous, reason, reference⟩ := auditEntry_returns written
  exact ⟨audit, action, actor, current, previous, reason, reference, Checked.make_eq_ok.mp made⟩

/-- A finalize answers a lease conflict, a record that is no longer in flight,
or the record it moved to the requested posture. -/
theorem finalize_cases {record : DownstreamSubmissionRecord} {f : FinalizeRequest}
    {result : DownstreamSubmissionMutationResult}
    (run : finalizeDownstreamSubmission record f = .ok result) :
    (result = ⟨.leaseConflict, some record, some "downstream_submission_lease_conflict"⟩) ∨
    (record.val.status ≠ .inFlight ∧
      result = ⟨.invalidState, some record, some "downstream_submission_not_in_flight"⟩) ∨
    (record.val.status = .inFlight ∧ firstFailure (f.checks record) = none ∧
      ∃ updated, transitionRecord record f.change = .ok updated ∧
        result = ⟨.accepted, some updated, none⟩) := by
  simp only [finalizeDownstreamSubmission] at run
  obtain ⟨leaseError, lease, run⟩ := Except.seq_returns.mp run
  cases leaseError with
  | some blocker =>
      simp only [leaseBlocker] at lease
      obtain ⟨_, _, lease⟩ := Except.seq_returns.mp lease
      split at lease
      · cases lease
        cases run
        exact Or.inl rfl
      · cases lease
  | none =>
      simp only at run
      split at run
      · rename_i moved
        cases run
        exact Or.inr (Or.inl ⟨moved, rfl⟩)
      · rename_i inFlight
        obtain ⟨_, passed, run⟩ := Except.seq_returns.mp run
        obtain ⟨updated, moved, run⟩ := Except.seq_returns.mp run
        cases run
        exact Or.inr (Or.inr ⟨not_not.mp inFlight, validate_eq_ok.mp passed, updated, moved, rfl⟩)

/-- The six answers of a reconciliation whose arguments pass their checks. -/
theorem reconcile_cases {record : DownstreamSubmissionRecord} {q : ReconcileRequest}
    {result : DownstreamSubmissionMutationResult}
    (run : reconcileDownstreamSubmission record q = .ok result) :
    firstFailure (q.checks record) = none ∧
    ((q.reportProgress record = some .exactReplay ∧ result = ⟨.replayed, some record, none⟩) ∨
     (q.reportProgress record = some .conflict ∧
       result = ⟨.invalidState, some record, some "downstream_submission_owner_version_conflict"⟩) ∨
     ((lastAudit record).val.changeReference = some q.changeReference ∧
       q.repeats record (lastAudit record) = true ∧ result = ⟨.replayed, some record, none⟩) ∨
     (result =
       ⟨.invalidState, some record, some "downstream_submission_change_reference_conflict"⟩) ∨
     (q.reconcilable record = false ∧
       result = ⟨.invalidState, some record, some "downstream_submission_not_reconcilable"⟩) ∨
     (q.reconcilable record = true ∧
       (lastAudit record).val.changeReference ≠ some q.changeReference ∧
       ∃ updated, transitionRecord record q.change = .ok updated ∧
         result = ⟨.accepted, some updated, none⟩)) := by
  simp only [reconcileDownstreamSubmission] at run
  obtain ⟨_, passed, run⟩ := Except.seq_returns.mp run
  refine ⟨validate_eq_ok.mp passed, ?_⟩
  by_cases replay : q.reportProgress record = some .exactReplay
  · rw [if_pos replay] at run
    cases run
    exact Or.inl ⟨replay, rfl⟩
  rw [if_neg replay] at run
  by_cases conflict : q.reportProgress record = some .conflict
  · rw [if_pos conflict] at run
    cases run
    exact Or.inr (Or.inl ⟨conflict, rfl⟩)
  rw [if_neg conflict] at run
  by_cases reference : (lastAudit record).val.changeReference = some q.changeReference
  · rw [if_pos reference] at run
    by_cases repeated : q.repeats record (lastAudit record) = true
    · rw [if_pos repeated] at run
      cases run
      exact Or.inr (Or.inr (Or.inl ⟨reference, repeated, rfl⟩))
    · rw [if_neg repeated] at run
      cases run
      exact Or.inr (Or.inr (Or.inr (Or.inl rfl)))
  rw [if_neg reference] at run
  cases reconcilable : q.reconcilable record with
  | false =>
      simp only [reconcilable, Bool.not_false, if_true] at run
      cases run
      exact Or.inr (Or.inr (Or.inr (Or.inr (Or.inl ⟨rfl, rfl⟩))))
  | true =>
      simp only [reconcilable, Bool.not_true, Bool.false_eq_true, if_false] at run
      obtain ⟨updated, moved, run⟩ := Except.seq_returns.mp run
      cases run
      exact Or.inr (Or.inr (Or.inr (Or.inr (Or.inr ⟨rfl, reference, updated, moved, rfl⟩))))

/-! ## Store operations -/

abbrev SubmissionStore := Dict String DownstreamSubmissionRecord

namespace SubmissionStore

def storageKey (record : DownstreamSubmissionRecord) : String :=
  downstreamSubmissionIdentity record.val.tenantId record.val.idempotencyKey

/-- The retained record and the claimed one are for one resource and target. -/
def sameResource (retained record : DownstreamSubmissionRecord) : Bool :=
  retained.val.tenantId = record.val.tenantId &&
    retained.val.resourceType = record.val.resourceType &&
    retained.val.resourceId = record.val.resourceId && retained.val.target = record.val.target

def resourceExisting (store : SubmissionStore) (record : DownstreamSubmissionRecord) :
    Option DownstreamSubmissionRecord :=
  store.values.find? fun retained => sameResource retained record

def downstreamSubmissionByIdempotencyKey (store : SubmissionStore)
    (tenantId idempotencyKey : String) : Except PyError (Option DownstreamSubmissionRecord) := do
  validate (identityChecks tenantId idempotencyKey)
  return store.get? (downstreamSubmissionIdentity tenantId idempotencyKey)

/-- The claim cannot raise: a constructed record has no blank identity part. -/
def claimDownstreamSubmission (store : SubmissionStore) (record : DownstreamSubmissionRecord) :
    DownstreamSubmissionClaimResult × SubmissionStore :=
  match store.get? (storageKey record) with
  | some existing =>
      (⟨evaluateDownstreamSubmissionClaim (some existing) record.val.requestFingerprint,
        some existing⟩, store)
  | none =>
      match store.resourceExisting record with
      | some retained => (⟨.resourceConflict, some retained⟩, store)
      | none =>
          (⟨evaluateDownstreamSubmissionClaim none record.val.requestFingerprint, some record⟩,
            store.set (storageKey record) record)

/-- Write the record of an accepted change back under `key`. -/
def writeAccepted (store : SubmissionStore) (key : String)
    (result : DownstreamSubmissionMutationResult) : SubmissionStore :=
  match result.decision, result.record with
  | .accepted, some updated => store.set key updated
  | _, _ => store

def finalizeDownstreamSubmission (store : SubmissionStore) (tenantId idempotencyKey : String)
    (f : FinalizeRequest) : Except PyError (DownstreamSubmissionMutationResult × SubmissionStore) := do
  validate (identityChecks tenantId idempotencyKey)
  match store.get? (downstreamSubmissionIdentity tenantId idempotencyKey) with
  | none => return (⟨.notFound, none, some "downstream_submission_not_found"⟩, store)
  | some existing =>
      let result ← LotusIdea.finalizeDownstreamSubmission existing f
      return (result,
        store.writeAccepted (downstreamSubmissionIdentity tenantId idempotencyKey) result)

def downstreamSubmissionBySupportReference (store : SubmissionStore) (supportReference : String) :
    Except PyError (Option DownstreamSubmissionRecord) := do
  validate [requireText supportReference "support_reference"]
  return store.values.find? fun record => record.val.supportReference = supportReference

def reconcileDownstreamSubmission (store : SubmissionStore) (supportReference : String)
    (q : ReconcileRequest) :
    Except PyError (DownstreamSubmissionMutationResult × SubmissionStore) := do
  let found ← store.downstreamSubmissionBySupportReference supportReference
  match found with
  | none => return (⟨.notFound, none, some "downstream_submission_not_found"⟩, store)
  | some existing =>
      let result ← LotusIdea.reconcileDownstreamSubmission existing q
      return (result, store.writeAccepted (storageKey existing) result)

end SubmissionStore

end LotusIdea

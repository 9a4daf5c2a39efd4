import LotusIdea.Domain.AILineage

/-!
# Data lifecycle

`domain/data_lifecycle`: the lifecycle control of a candidate, the commands that
hold, release, erase and purge it, and how a command is evaluated against the
control.  A hold lies over the state it was applied to, which stays the effective
state of the candidate.
-/

set_option autoImplicit false

namespace LotusIdea

inductive DataLifecycleState where
  | active
  | held
  | erased
  | purged
  deriving DecidableEq, Repr

def DataLifecycleState.value : DataLifecycleState → String
  | .active => "active"
  | .held => "held"
  | .erased => "erased"
  | .purged => "purged"

inductive DataLifecycleAction where
  | applyHold
  | releaseHold
  | erase
  | purge
  deriving DecidableEq, Repr

inductive DataLifecycleDecision where
  | preview
  | applied
  | replayed
  | blocked
  | conflict
  | notFound
  deriving DecidableEq, Repr

inductive DataLifecycleBlocker where
  | candidateNotFound
  | idempotencyConflict
  | tenantScopeMissing
  | tenantScopeMismatch
  | lifecycleControlMissing
  | retentionPolicyUnknown
  | authorityInvalid
  | authorityAttestationRequired
  | authorityAttestationMismatch
  | authorityAttestationReplay
  | archivePostureRequired
  | archivePostureMismatch
  | archiveLegalHoldActive
  | archiveDisposalNotExecuted
  | archivePostureReplay
  | dualAuthorizationRequired
  | legalHoldActive
  | legalHoldNotActive
  | activeDeliveryWork
  | retentionNotExpired
  | invalidState
  deriving DecidableEq, Repr

def regulatedAdvisoryPolicyRef : String := "lotus-idea:regulated-advisory-evidence:seven-year:v1"

/-- `KNOWN_LOCAL_POLICY_REFS`. -/
def knownLocalPolicyRefs : List String :=
  [regulatedAdvisoryPolicyRef, "lotus-idea:operational-delivery:four-hundred-day:v1",
   "lotus-idea:quarantine:ninety-day:v1"]

/-! ## Receipts -/

inductive LifecycleAuthorityDomain where
  | legalAndRecords
  | privacy
  deriving DecidableEq, Repr

structure VerifiedLifecycleAuthorityReceiptFields where
  decisionId : String
  replayNonce : String
  tenantId : String
  candidateId : String
  action : DataLifecycleAction
  authorityDomain : LifecycleAuthorityDomain
  authorityRef : String
  changeReference : String
  keyId : String
  rotationEpoch : Int
  issuedAtUtc : DateTime
  effectiveAtUtc : DateTime
  expiresAtUtc : DateTime
  verifiedAtUtc : DateTime
  deriving DecidableEq

def VerifiedLifecycleAuthorityReceiptFields.checks
    (r : VerifiedLifecycleAuthorityReceiptFields) : List (Bool × PyError) :=
  [requireSourceSafeReference r.decisionId "decision_id",
   requireSourceSafeReference r.tenantId "tenant_id",
   requireSourceSafeReference r.candidateId "candidate_id",
   requireSourceSafeReference r.authorityRef "authority_ref",
   requireSourceSafeReference r.changeReference "change_reference",
   requireSourceSafeReference r.keyId "key_id",
   requireSha256Hex r.replayNonce "replay_nonce",
   (decide (r.rotationEpoch < 1), .valueError "rotation_epoch must be positive"),
   requireProviderUtc r.issuedAtUtc "issued_at_utc",
   requireProviderUtc r.effectiveAtUtc "effective_at_utc",
   requireProviderUtc r.expiresAtUtc "expires_at_utc",
   requireProviderUtc r.verifiedAtUtc "verified_at_utc",
   (!(decide (r.issuedAtUtc ≤ r.effectiveAtUtc) && decide (r.effectiveAtUtc ≤ r.verifiedAtUtc)),
     .valueError "verified lifecycle authority receipt is not yet effective"),
   (decide (r.expiresAtUtc ≤ r.verifiedAtUtc),
     .valueError "verified lifecycle authority receipt is expired")]

abbrev VerifiedLifecycleAuthorityReceipt := Checked VerifiedLifecycleAuthorityReceiptFields.checks

inductive ArchiveLifecycleAction where
  | retain
  | legalHold
  | disposalEligible
  | disposalExecuted
  deriving DecidableEq, Repr

inductive ArchiveLegalHoldStatus where
  | clear
  | active
  deriving DecidableEq, Repr

/-- Of an archive receipt, what a command is checked against. -/
structure VerifiedArchiveLifecycleReceiptFields where
  decisionId : String
  documentId : String
  evidencePackId : String
  candidateId : String
  tenantId : String
  retentionPolicyId : String
  legalHoldStatus : ArchiveLegalHoldStatus
  lifecycleAction : ArchiveLifecycleAction
  payloadDigest : String
  keyId : String
  issuedAtUtc : DateTime
  expiresAtUtc : DateTime
  verifiedAtUtc : DateTime
  deriving DecidableEq

def VerifiedArchiveLifecycleReceiptFields.checks
    (r : VerifiedArchiveLifecycleReceiptFields) : List (Bool × PyError) :=
  [requireSourceSafeReference r.decisionId "decision_id",
   requireSourceSafeReference r.documentId "document_id",
   requireSourceSafeReference r.evidencePackId "evidence_pack_id",
   requireSourceSafeReference r.candidateId "candidate_id",
   requireSourceSafeReference r.tenantId "tenant_id",
   requireSourceSafeReference r.retentionPolicyId "retention_policy_id",
   requireSourceSafeReference r.keyId "key_id",
   (!isSha256Digest r.payloadDigest,
     .valueError "payload_digest must be a prefixed lowercase SHA-256 digest"),
   requireProviderUtc r.issuedAtUtc "issued_at_utc",
   requireProviderUtc r.expiresAtUtc "expires_at_utc",
   requireProviderUtc r.verifiedAtUtc "verified_at_utc",
   (!(decide (r.issuedAtUtc ≤ r.verifiedAtUtc) && decide (r.verifiedAtUtc < r.expiresAtUtc)),
     .valueError "verified Archive lifecycle receipt is outside its validity window")]

abbrev VerifiedArchiveLifecycleReceipt := Checked VerifiedArchiveLifecycleReceiptFields.checks

/-! ## Controls -/

structure DataLifecycleControlFields where
  candidateId : String
  tenantId : String
  policyRef : String
  state : DataLifecycleState
  retentionExpiresAtUtc : DateTime
  version : Int
  updatedAtUtc : DateTime
  heldFromState : Option DataLifecycleState := none
  holdAuthorityRef : Option String := none
  holdChangeReference : Option String := none
  heldAtUtc : Option DateTime := none
  erasedAtUtc : Option DateTime := none
  purgedAtUtc : Option DateTime := none
  tombstoneSha256 : Option String := none
  deriving DecidableEq

namespace DataLifecycleControlFields

def optionalUtc (value : Option DateTime) (fieldName : String) : List (Bool × PyError) :=
  value.elim [] fun t => [requireProviderUtc t fieldName]

/-- `_validate_hold_state`. -/
def holdChecks (c : DataLifecycleControlFields) : List (Bool × PyError) :=
  if c.state = .held then
    [(c.heldFromState.isNone || c.holdAuthorityRef.isNone || c.holdChangeReference.isNone ||
        c.heldAtUtc.isNone,
      .valueError "held lifecycle control requires complete hold metadata"),
     (decide (c.heldFromState = some .held), .valueError "held_from_state cannot be held"),
     requireSourceSafeReference (c.holdAuthorityRef.getD "None") "hold_authority_ref",
     requireSourceSafeReference (c.holdChangeReference.getD "None") "hold_change_reference"] ++
    optionalUtc c.heldAtUtc "held_at_utc"
  else
    [(c.heldFromState.isSome || c.holdAuthorityRef.isSome || c.holdChangeReference.isSome ||
        c.heldAtUtc.isSome,
      .valueError "non-held lifecycle control forbids hold metadata")]

/-- The state under any hold. -/
def effectiveState (c : DataLifecycleControlFields) : Option DataLifecycleState :=
  if c.state = .held then c.heldFromState else some c.state

def isTombstone (state : Option DataLifecycleState) : Bool :=
  state = some .erased || state = some .purged

/-- `_validate_terminal_state`. -/
def terminalChecks (c : DataLifecycleControlFields) : List (Bool × PyError) :=
  optionalUtc c.erasedAtUtc "erased_at_utc" ++
  optionalUtc c.purgedAtUtc "purged_at_utc" ++
  (if isTombstone c.effectiveState then
    [(c.erasedAtUtc.isNone,
      .valueError "erased and purged lifecycle controls require erased_at_utc")]
  else
    [(c.erasedAtUtc.isSome || c.purgedAtUtc.isSome,
      .valueError "active lifecycle control forbids erasure or purge timestamps")]) ++
  [(decide (c.effectiveState = some .purged) && c.purgedAtUtc.isNone,
     .valueError "purged lifecycle control requires purged_at_utc"),
   (!decide (c.effectiveState = some .purged) && c.purgedAtUtc.isSome,
     .valueError "non-purged lifecycle control forbids purged_at_utc")] ++
  c.tombstoneSha256.elim [] fun digest => [requireSha256Hex digest "tombstone_sha256"]

def checks (c : DataLifecycleControlFields) : List (Bool × PyError) :=
  [requireSourceSafeReference c.candidateId "candidate_id",
   requireSourceSafeReference c.tenantId "tenant_id",
   requireSourceSafeReference c.policyRef "policy_ref",
   requireProviderUtc c.retentionExpiresAtUtc "retention_expires_at_utc",
   requireProviderUtc c.updatedAtUtc "updated_at_utc",
   (decide (c.version ≤ 0), .valueError "version must be positive")] ++
  c.holdChecks ++ c.terminalChecks

end DataLifecycleControlFields

abbrev DataLifecycleControl := Checked DataLifecycleControlFields.checks

def DataLifecycleControl.effectiveState (c : DataLifecycleControl) : Option DataLifecycleState :=
  c.val.effectiveState

/-- The candidate of the control is erased or purged, also under a hold. -/
def DataLifecycleControl.isTombstone (c : DataLifecycleControl) : Bool :=
  DataLifecycleControlFields.isTombstone c.effectiveState

/-! ## Commands -/

structure DataLifecycleCandidateContextFields where
  candidateExists : Bool
  candidateTenantId : Option String
  control : Option DataLifecycleControl
  activeOutboxCount : Nat
  activeDownstreamCount : Nat
  linkedReportEvidencePackIds : List String := []

def DataLifecycleCandidateContextFields.checks (c : DataLifecycleCandidateContextFields) :
    List (Bool × PyError) :=
  (c.candidateTenantId.elim [] fun tenantId =>
    [requireSourceSafeReference tenantId "candidate_tenant_id"]) ++
  (c.linkedReportEvidencePackIds.map fun packId =>
    requireSourceSafeReference packId "linked_report_evidence_pack_id") ++
  [(!decide c.linkedReportEvidencePackIds.Nodup,
     .valueError "linked_report_evidence_pack_ids must be unique")]

abbrev DataLifecycleCandidateContext := Checked DataLifecycleCandidateContextFields.checks

structure DataLifecycleCommandFields where
  candidateId : String
  tenantId : String
  action : DataLifecycleAction
  actorSubject : String
  authorityRef : String
  reason : String
  changeReference : String
  idempotencyKey : String
  requestFingerprint : String
  correlationId : String
  traceId : String
  requestedAtUtc : DateTime
  dryRun : Bool
  approverSubject : Option String := none
  authorityVerificationRequired : Bool := false
  authorityReceipt : Option VerifiedLifecycleAuthorityReceipt := none
  archiveLifecycleReceipt : Option VerifiedArchiveLifecycleReceipt := none

def DataLifecycleCommandFields.checks (c : DataLifecycleCommandFields) : List (Bool × PyError) :=
  [requireSourceSafeReference c.candidateId "candidate_id",
   requireSourceSafeReference c.tenantId "tenant_id",
   requireSourceSafeReference c.actorSubject "actor_subject",
   requireSourceSafeReference c.authorityRef "authority_ref",
   requireSourceSafeReference c.reason "reason",
   requireSourceSafeReference c.changeReference "change_reference",
   requireSourceSafeReference c.idempotencyKey "idempotency_key",
   requireSourceSafeReference c.requestFingerprint "request_fingerprint",
   requireSourceSafeReference c.correlationId "correlation_id",
   requireSourceSafeReference c.traceId "trace_id"] ++
  (c.approverSubject.elim [] fun approver =>
    [requireSourceSafeReference approver "approver_subject"]) ++
  [(decide (c.correlationId = c.traceId),
     .valueError "correlation_id and trace_id must be distinct"),
   requireProviderUtc c.requestedAtUtc "requested_at_utc"]

abbrev DataLifecycleCommand := Checked DataLifecycleCommandFields.checks

/-! ## Evaluation -/

structure DataLifecycleEvaluation where
  decision : DataLifecycleDecision
  currentControl : Option DataLifecycleControl
  projectedControl : Option DataLifecycleControl
  blockers : List DataLifecycleBlocker
  redactionRequired : Bool := false
  purgeRequired : Bool := false

def DataLifecycleAction.onHold (action : DataLifecycleAction) : Bool :=
  action = .applyHold || action = .releaseHold

/-- `_authority_matches`. -/
def authorityMatches (command : DataLifecycleCommand) : Bool :=
  PyText.startsWith command.val.authorityRef
    (if command.val.action.onHold then "bank-legal-and-records-governance:"
     else "bank-privacy-governance:")

/-- `_authority_receipt_matches`. -/
def authorityReceiptMatches (command : DataLifecycleCommand)
    (receipt : VerifiedLifecycleAuthorityReceipt) (evaluatedAtUtc : DateTime) : Bool :=
  let expectedDomain : LifecycleAuthorityDomain :=
    if command.val.action.onHold then .legalAndRecords else .privacy
  receipt.val.tenantId = command.val.tenantId &&
  receipt.val.candidateId = command.val.candidateId &&
  receipt.val.action = command.val.action &&
  receipt.val.authorityRef = command.val.authorityRef &&
  receipt.val.changeReference = command.val.changeReference &&
  receipt.val.authorityDomain = expectedDomain &&
  decide (receipt.val.effectiveAtUtc ≤ evaluatedAtUtc) &&
  decide (evaluatedAtUtc < receipt.val.expiresAtUtc)

/-- `_archive_posture_blockers`. -/
def archivePostureBlockers (command : DataLifecycleCommand)
    (context : DataLifecycleCandidateContext) (evaluatedAtUtc : DateTime) :
    List DataLifecycleBlocker :=
  let linkedPackIds := context.val.linkedReportEvidencePackIds
  match command.val.archiveLifecycleReceipt with
  | none => if linkedPackIds.isEmpty then [] else [.archivePostureRequired]
  | some receipt =>
      if linkedPackIds.isEmpty then [.archivePostureMismatch]
      else if !(receipt.val.tenantId = command.val.tenantId &&
          receipt.val.candidateId = command.val.candidateId &&
          linkedPackIds.contains receipt.val.evidencePackId &&
          decide (receipt.val.issuedAtUtc ≤ evaluatedAtUtc) &&
          decide (evaluatedAtUtc < receipt.val.expiresAtUtc)) then [.archivePostureMismatch]
      else if command.val.action = .applyHold then
        if receipt.val.lifecycleAction = .legalHold then [] else [.archivePostureMismatch]
      else if receipt.val.legalHoldStatus = .active then [.archiveLegalHoldActive]
      else if command.val.action = .purge && receipt.val.lifecycleAction ≠ .disposalExecuted then
        [.archiveDisposalNotExecuted]
      else []

/-- `_requires_dual_authorization`. -/
def requiresDualAuthorization (action : DataLifecycleAction) : Bool :=
  action = .releaseHold || action = .erase || action = .purge

/-- `_common_blockers`. -/
def commonBlockers (command : DataLifecycleCommand) (context : DataLifecycleCandidateContext)
    (evaluatedAtUtc : DateTime) : List DataLifecycleBlocker :=
  (match context.val.candidateTenantId with
    | none => [.tenantScopeMissing]
    | some tenantId => if tenantId ≠ command.val.tenantId then [.tenantScopeMismatch] else []) ++
  (match context.val.control with
    | none => [.lifecycleControlMissing]
    | some control =>
        if control.val.policyRef ∉ knownLocalPolicyRefs then [.retentionPolicyUnknown] else []) ++
  (if authorityMatches command then [] else [.authorityInvalid]) ++
  (match command.val.authorityReceipt with
    | none =>
        if command.val.authorityVerificationRequired then [.authorityAttestationRequired] else []
    | some receipt =>
        if authorityReceiptMatches command receipt evaluatedAtUtc then []
        else [.authorityAttestationMismatch]) ++
  archivePostureBlockers command context evaluatedAtUtc ++
  (if !command.val.dryRun && requiresDualAuthorization command.val.action &&
      (command.val.approverSubject.isNone ||
        command.val.approverSubject = some command.val.actorSubject) then
    [.dualAuthorizationRequired]
  else [])

/-- `_has_active_delivery`. -/
def hasActiveDelivery (context : DataLifecycleCandidateContext) : Bool :=
  decide (0 < context.val.activeOutboxCount) || decide (0 < context.val.activeDownstreamCount)

/-- `_blocked`. -/
def lifecycleBlocked (control : Option DataLifecycleControl)
    (blockers : List DataLifecycleBlocker) : DataLifecycleEvaluation where
  decision := .blocked
  currentControl := control
  projectedControl := control
  blockers := blockers

/-- `_replayed`. -/
def lifecycleReplayed (control : DataLifecycleControl) : DataLifecycleEvaluation where
  decision := .replayed
  currentControl := some control
  projectedControl := some control
  blockers := []

/-- `_approved` with the control that `replace` makes. -/
def lifecycleApproved (command : DataLifecycleCommand) (current : DataLifecycleControl)
    (projected : DataLifecycleControlFields) (redactionRequired purgeRequired : Bool) :
    Except PyError DataLifecycleEvaluation := do
  let projected ← Checked.make DataLifecycleControlFields.checks projected
  return {
    decision := if command.val.dryRun then .preview else .applied
    currentControl := some current
    projectedControl := some projected
    blockers := []
    redactionRequired
    purgeRequired }

section
variable (command : DataLifecycleCommand) (context : DataLifecycleCandidateContext)
  (control : DataLifecycleControl) (evaluatedAtUtc : DateTime)

/-- `_evaluate_hold`. -/
def evaluateHold : Except PyError DataLifecycleEvaluation :=
  if control.val.state = .held then .ok (lifecycleBlocked (some control) [.legalHoldActive])
  else
    lifecycleApproved command control
      { control.val with
        state := .held
        version := control.val.version + 1
        updatedAtUtc := evaluatedAtUtc
        heldFromState := some control.val.state
        holdAuthorityRef := some command.val.authorityRef
        holdChangeReference := some command.val.changeReference
        heldAtUtc := some evaluatedAtUtc } false false

/-- `_evaluate_release`. -/
def evaluateRelease : Except PyError DataLifecycleEvaluation :=
  match control.val.heldFromState with
  | none => .ok (lifecycleBlocked (some control) [.legalHoldNotActive])
  | some former =>
      if control.val.state ≠ .held then
        .ok (lifecycleBlocked (some control) [.legalHoldNotActive])
      else
        lifecycleApproved command control
          { control.val with
            state := former
            version := control.val.version + 1
            updatedAtUtc := evaluatedAtUtc
            heldFromState := none
            holdAuthorityRef := none
            holdChangeReference := none
            heldAtUtc := none } false false

/-- `_evaluate_erase`. -/
def evaluateErase : Except PyError DataLifecycleEvaluation :=
  if control.val.state = .held then .ok (lifecycleBlocked (some control) [.legalHoldActive])
  else if control.val.state = .erased ∨ control.val.state = .purged then
    .ok (lifecycleReplayed control)
  else if hasActiveDelivery context then
    .ok (lifecycleBlocked (some control) [.activeDeliveryWork])
  else
    lifecycleApproved command control
      { control.val with
        state := .erased
        version := control.val.version + 1
        updatedAtUtc := evaluatedAtUtc
        erasedAtUtc := some evaluatedAtUtc } true false

def purgeBlockers : List DataLifecycleBlocker :=
  (if control.val.state ≠ .erased then [.invalidState] else []) ++
  (if evaluatedAtUtc < control.val.retentionExpiresAtUtc then [.retentionNotExpired] else []) ++
  (if hasActiveDelivery context then [.activeDeliveryWork] else [])

/-- `_evaluate_purge`. -/
def evaluatePurge : Except PyError DataLifecycleEvaluation :=
  if control.val.state = .held then .ok (lifecycleBlocked (some control) [.legalHoldActive])
  else if control.val.state = .purged then .ok (lifecycleReplayed control)
  else if !(purgeBlockers context control evaluatedAtUtc).isEmpty then
    .ok (lifecycleBlocked (some control) (purgeBlockers context control evaluatedAtUtc))
  else
    lifecycleApproved command control
      { control.val with
        state := .purged
        version := control.val.version + 1
        updatedAtUtc := evaluatedAtUtc
        purgedAtUtc := some evaluatedAtUtc } false true

/-- The evaluation of one action, once nothing blocks every action. -/
def evaluateAction : Except PyError DataLifecycleEvaluation :=
  match command.val.action with
  | .applyHold => evaluateHold command control evaluatedAtUtc
  | .releaseHold => evaluateRelease command control evaluatedAtUtc
  | .erase => evaluateErase command context control evaluatedAtUtc
  | .purge => evaluatePurge command context control evaluatedAtUtc

/-- `evaluate_data_lifecycle`. -/
def evaluateDataLifecycle : Except PyError DataLifecycleEvaluation :=
  if !evaluatedAtUtc.isUtc then
    .error (.valueError "evaluated_at_utc must be timezone-aware UTC")
  else if !context.val.candidateExists then
    .ok
      { decision := .notFound
        currentControl := context.val.control
        projectedControl := context.val.control
        blockers := [.candidateNotFound] }
  else if evaluatedAtUtc < command.val.requestedAtUtc then
    .error (.valueError "requested_at_utc must not be after evaluated_at_utc")
  else
    let blockers := commonBlockers command context evaluatedAtUtc
    match context.val.control with
    | none => .ok (lifecycleBlocked none blockers)
    | some control =>
        if !blockers.isEmpty then .ok (lifecycleBlocked (some control) blockers)
        else evaluateAction command context control evaluatedAtUtc

end

/-! ## What an applied command does to the control -/

/-- The control before and after an applied action, and whether it redacts. -/
inductive LifecycleTransition (current projected : DataLifecycleControlFields) :
    DataLifecycleAction → Bool → Prop where
  | hold (free : current.state ≠ .held) (onto : projected.state = .held)
      (former : projected.heldFromState = some current.state) :
      LifecycleTransition current projected .applyHold false
  | release (under : current.state = .held) (former : current.heldFromState = some projected.state)
      (free : projected.heldFromState = none) :
      LifecycleTransition current projected .releaseHold false
  | erase (living : current.state = .active) (gone : projected.state = .erased)
      (kept : projected.heldFromState = current.heldFromState) :
      LifecycleTransition current projected .erase true
  | purge (erased : current.state = .erased) (gone : projected.state = .purged)
      (kept : projected.heldFromState = current.heldFromState) :
      LifecycleTransition current projected .purge false

/-- The control keeps the candidate and the tenant it is about. -/
structure SameSubject (current projected : DataLifecycleControlFields) : Prop where
  candidateId : projected.candidateId = current.candidateId
  tenantId : projected.tenantId = current.tenantId

section
variable {command : DataLifecycleCommand} {context : DataLifecycleCandidateContext}
  {control : DataLifecycleControl} {evaluatedAtUtc : DateTime} {e : DataLifecycleEvaluation}

theorem lifecycleApproved_returns {projected : DataLifecycleControlFields} {redact purge : Bool}
    (run : lifecycleApproved command control projected redact purge = .ok e) :
    ∃ made : DataLifecycleControl, made.val = projected ∧ e.projectedControl = some made ∧
      e.redactionRequired = redact ∧ (e.decision = .applied → command.val.dryRun = false) := by
  simp only [lifecycleApproved] at run
  obtain ⟨made, built, run⟩ := Except.seq_returns.mp run
  cases run
  refine ⟨made, (Checked.make_eq_ok.mp built), rfl, rfl, ?_⟩
  intro applied
  cases dry : command.val.dryRun with
  | false => rfl
  | true => simp [dry] at applied

theorem lifecycleApproved_of_valid {projected : DataLifecycleControlFields} {redact purge : Bool}
    (passed : firstFailure projected.checks = none) :
    ∃ e, lifecycleApproved command control projected redact purge = .ok e ∧
      e.decision = if command.val.dryRun then .preview else .applied := by
  rw [lifecycleApproved, Checked.make_of_valid passed]
  exact ⟨_, rfl, rfl⟩

/-- An applied command is one of the four transitions. -/
theorem evaluateAction_applied
    (run : evaluateAction command context control evaluatedAtUtc = .ok e)
    (applied : e.decision = .applied) :
    ∃ projected : DataLifecycleControl, e.projectedControl = some projected ∧
      command.val.dryRun = false ∧ SameSubject control.val projected.val ∧
      LifecycleTransition control.val projected.val command.val.action e.redactionRequired := by
  simp only [evaluateAction] at run
  cases action : command.val.action with
  | applyHold =>
      simp only [action, evaluateHold] at run
      split at run
      · cases run
        cases applied
      · rename_i free
        obtain ⟨made, value, projected, redact, wet⟩ := lifecycleApproved_returns run
        refine ⟨made, projected, wet applied, ⟨by rw [value], by rw [value]⟩, ?_⟩
        rw [redact, value]
        exact .hold free rfl rfl
  | releaseHold =>
      simp only [action, evaluateRelease] at run
      split at run
      · cases run
        cases applied
      · rename_i former held
        split at run
        · cases run
          cases applied
        · rename_i under
          obtain ⟨made, value, projected, redact, wet⟩ := lifecycleApproved_returns run
          refine ⟨made, projected, wet applied, ⟨by rw [value], by rw [value]⟩, ?_⟩
          rw [redact, value]
          exact .release (not_not.mp under) held rfl
  | erase =>
      simp only [action, evaluateErase] at run
      split at run
      · cases run
        cases applied
      · rename_i free
        split at run
        · cases run
          cases applied
        · rename_i living
          split at run
          · cases run
            cases applied
          · obtain ⟨made, value, projected, redact, wet⟩ := lifecycleApproved_returns run
            refine ⟨made, projected, wet applied, ⟨by rw [value], by rw [value]⟩, ?_⟩
            rw [redact, value]
            refine .erase ?_ rfl rfl
            cases state : control.val.state <;> simp_all
  | purge =>
      simp only [action, evaluatePurge] at run
      split at run
      · cases run
        cases applied
      · split at run
        · cases run
          cases applied
        · split at run
          · cases run
            cases applied
          · rename_i unblocked
            obtain ⟨made, value, projected, redact, wet⟩ := lifecycleApproved_returns run
            refine ⟨made, projected, wet applied, ⟨by rw [value], by rw [value]⟩, ?_⟩
            rw [redact, value]
            refine .purge ?_ rfl rfl
            by_contra standing
            simp [purgeBlockers, standing] at unblocked

/-- Nothing keeps the command from being evaluated against the control. -/
structure LifecycleAdmitted (command : DataLifecycleCommand)
    (context : DataLifecycleCandidateContext) (evaluatedAtUtc : DateTime)
    (control : DataLifecycleControl) : Prop where
  utc : evaluatedAtUtc.isUtc = true
  present : context.val.candidateExists = true
  requested : ¬ evaluatedAtUtc < command.val.requestedAtUtc
  controlled : context.val.control = some control
  unblocked : commonBlockers command context evaluatedAtUtc = []

theorem evaluateDataLifecycle_admitted
    (admitted : LifecycleAdmitted command context evaluatedAtUtc control) :
    evaluateDataLifecycle command context evaluatedAtUtc =
      evaluateAction command context control evaluatedAtUtc := by
  simp [evaluateDataLifecycle, admitted.utc, admitted.present, admitted.requested,
    admitted.controlled, admitted.unblocked]

theorem evaluateDataLifecycle_applied
    (run : evaluateDataLifecycle command context evaluatedAtUtc = .ok e)
    (applied : e.decision = .applied) :
    ∃ control projected : DataLifecycleControl,
      LifecycleAdmitted command context evaluatedAtUtc control ∧ command.val.dryRun = false ∧
      e.projectedControl = some projected ∧ SameSubject control.val projected.val ∧
      LifecycleTransition control.val projected.val command.val.action e.redactionRequired := by
  simp only [evaluateDataLifecycle] at run
  split at run
  · cases run
  · rename_i utc
    split at run
    · cases run
      cases applied
    · rename_i present
      split at run
      · cases run
      · rename_i requested
        split at run
        · cases run
          cases applied
        · rename_i control held
          split at run
          · cases run
            cases applied
          · rename_i unblocked
            obtain ⟨projected, found, wet, same, transition⟩ := evaluateAction_applied run applied
            exact ⟨control, projected,
              ⟨by simpa using utc, by simpa using present, requested, held,
                by simpa using unblocked⟩,
              wet, found, same, transition⟩

/-- A control that is not held can be held at any UTC time. -/
theorem evaluateHold_free (free : control.val.state ≠ .held) (utc : evaluatedAtUtc.isUtc = true) :
    ∃ e, evaluateHold command control evaluatedAtUtc = .ok e ∧
      e.decision = if command.val.dryRun then .preview else .applied := by
  have subject := control.valid
  have named := command.valid
  simp only [DataLifecycleControlFields.checks, firstFailure_append, firstFailure_cons,
    firstFailure_nil, and_true] at subject
  obtain ⟨⟨⟨candidate, tenant, policy, expires, updated, version⟩, _⟩, terminal⟩ := subject
  simp only [DataLifecycleCommandFields.checks, firstFailure_append, firstFailure_cons,
    firstFailure_nil, and_true] at named
  obtain ⟨⟨⟨_, _, _, authority, _, change, _⟩, _⟩, _⟩ := named
  have positive : decide (control.val.version + 1 ≤ 0) = false := by
    simp only [decide_eq_false_iff_not] at version ⊢
    omega
  have passed : firstFailure (DataLifecycleControlFields.checks
      { control.val with
        state := .held
        version := control.val.version + 1
        updatedAtUtc := evaluatedAtUtc
        heldFromState := some control.val.state
        holdAuthorityRef := some command.val.authorityRef
        holdChangeReference := some command.val.changeReference
        heldAtUtc := some evaluatedAtUtc }) = none := by
    simp only [DataLifecycleControlFields.checks, firstFailure_append, firstFailure_cons,
      firstFailure_nil, and_true]
    refine ⟨⟨⟨candidate, tenant, policy, expires, ?_, positive⟩, ?_⟩, ?_⟩
    · simp [requireProviderUtc, utc]
    · simp only [DataLifecycleControlFields.holdChecks, DataLifecycleControlFields.optionalUtc,
        if_true, firstFailure_append, firstFailure_cons, firstFailure_nil, Option.elim_some,
        requireProviderUtc, utc]
      exact ⟨⟨rfl, by simp [free], authority, change, trivial⟩, rfl, trivial⟩
    · simpa [DataLifecycleControlFields.terminalChecks, DataLifecycleControlFields.effectiveState,
        free] using terminal
  rw [evaluateHold, if_neg free]
  exact lifecycleApproved_of_valid passed

/-- The digest of a tombstone plays no part in the transition. -/
theorem LifecycleTransition.withTombstone {current projected : DataLifecycleControlFields}
    {action : DataLifecycleAction} {redact : Bool}
    (transition : LifecycleTransition current projected action redact)
    (tombstone : Option String) :
    LifecycleTransition current { projected with tombstoneSha256 := tombstone } action redact := by
  cases transition with
  | hold free onto former => exact .hold free onto former
  | release under former free => exact .release under former free
  | erase living gone kept => exact .erase living gone kept
  | purge erased gone kept => exact .purge erased gone kept

/-- Holds and their releases leave the effective state as it is; an erasure and a
purge move it one step. -/
theorem LifecycleTransition.effective {current projected : DataLifecycleControlFields}
    {action : DataLifecycleAction} {redact : Bool}
    (transition : LifecycleTransition current projected action redact)
    (valid : firstFailure current.checks = none) :
    projected.effectiveState = current.effectiveState ∨
      (redact = true ∧ projected.effectiveState = some .erased) ∨
      (current.effectiveState = some .erased ∧ projected.effectiveState = some .purged) := by
  cases transition with
  | hold free onto former =>
      left
      simp [DataLifecycleControlFields.effectiveState, onto, former, free]
  | release under former free =>
      have other : projected.state ≠ .held := by
        intro held
        simp only [DataLifecycleControlFields.checks, DataLifecycleControlFields.holdChecks,
          under, if_true, firstFailure_append, firstFailure_cons] at valid
        rw [held] at former
        simp [former] at valid
      left
      simp [DataLifecycleControlFields.effectiveState, under, former, other]
  | erase living gone kept =>
      exact .inr (.inl ⟨rfl, by simp [DataLifecycleControlFields.effectiveState, gone]⟩)
  | purge erased gone kept =>
      exact .inr (.inr (by simp [DataLifecycleControlFields.effectiveState, erased, gone]))

end

end LotusIdea

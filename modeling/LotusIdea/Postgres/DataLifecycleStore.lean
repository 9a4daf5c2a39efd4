import LotusIdea.Domain.DataLifecycle
import LotusIdea.Foundation.OrderedRows
import LotusIdea.Foundation.Runs
import LotusIdea.Postgres.CandidateTable

/-!
# Lifecycle commands against the tables

`postgres_policy.py` and `postgres_redaction.py`: a lifecycle command is answered
from the operations recorded before, or evaluated against the candidate's control
and applied to its rows; a candidate is written only while its control lets it.
Of the rows an erasure redacts only the candidate's own is kept; what the other
tables tell of a candidate, the counts of the rows they would lose among it, comes
with each command.  The audit digest of an operation is left out.
-/

set_option autoImplicit false

namespace LotusIdea

open Json

/-! ## Tables -/

/-- The columns of an operation that later commands look up. -/
structure DataLifecycleOperationRow where
  operationId : String
  idempotencyKey : String
  requestFingerprint : String
  candidateId : String
  decision : DataLifecycleDecision
  dryRun : Bool
  blockers : List DataLifecycleBlocker
  affectedRowCounts : Dict String Nat
  evaluatedAtUtc : DateTime
  authorityDecisionId : Option String
  authorityReplayNonce : Option String
  archiveDecisionId : Option String
  archivePayloadDigest : Option String

structure LifecycleStore where
  candidates : Dict String CandidateRow
  controls : Dict String DataLifecycleControlFields
  operations : List DataLifecycleOperationRow

def LifecycleStore.empty : LifecycleStore := ⟨Dict.empty, Dict.empty, []⟩

/-- What the other tables tell of a candidate when a command is executed. -/
structure CandidateWork where
  activeOutboxCount : Nat
  activeDownstreamCount : Nat
  linkedReportEvidencePackIds : List String
  redactedRowCounts : Dict String Nat := Dict.empty
  purgedRowCounts : Dict String Nat := Dict.empty

/-- `t + INTERVAL '7 years'`, where a 29 February falls back to the day before. -/
def plusSevenYears (t : DateTime) : DateTime :=
  let days := t.instant.fdiv 86400000000
  let (year, month, day) := DateTime.civilFromDays days
  let day := if month = 2 ∧ day = 29 then 28 else day
  .utc (DateTime.daysFromCivil (year + 7) month day * 86400000000 + t.instant.fmod 86400000000)

structure DataLifecycleOperationResult where
  operationId : String
  decision : DataLifecycleDecision
  control : Option DataLifecycleControl
  blockers : List DataLifecycleBlocker
  dryRun : Bool
  affectedRowCounts : Dict String Nat

/-! ## Writing candidates -/

/-- The control that comes with a new candidate. -/
def initialControl (record : CandidateWrite) (scope : ReviewAccessScope) :
    DataLifecycleControlFields where
  candidateId := record.candidate.val.candidateId
  tenantId := scope.val.tenantId
  policyRef := regulatedAdvisoryPolicyRef
  state := .active
  retentionExpiresAtUtc := plusSevenYears record.persistedAtUtc
  version := 1
  updatedAtUtc := .utc record.candidate.val.updatedAtUtc.instant

/-- `held_from_state or state`. -/
def DataLifecycleControlFields.coveredState (c : DataLifecycleControlFields) :
    DataLifecycleState :=
  c.heldFromState.getD c.state

section
variable [Sha256]

/-- A candidate that is not stored is inserted with its control; one that is, is
updated when `assert_data_lifecycle_allows_candidate_writes` passes. -/
def LifecycleStore.writeCandidate (s : LifecycleStore) (record : CandidateWrite) :
    Except PyError LifecycleStore :=
  let candidateId := record.candidate.val.candidateId
  match s.candidates.get? candidateId with
  | none =>
      match record.candidate.val.accessScope with
      | none => .error (.runtimeError "candidate mutation is blocked by data lifecycle state")
      | some scope =>
          .ok { s with
            candidates := s.candidates.set candidateId record.row
            controls :=
              match s.controls.get? candidateId with
              | some _ => s.controls
              | none => s.controls.set candidateId (initialControl record scope) }
  | some row =>
      match s.controls.get? candidateId with
      | none => .error (.runtimeError "candidate mutation is blocked by data lifecycle state")
      | some control =>
          if control.coveredState = .erased ∨ control.coveredState = .purged then
            .error (.runtimeError "candidate mutation is blocked by data lifecycle state")
          else .ok { s with candidates := s.candidates.set candidateId (record.updated row) }

/-! ## Executing commands -/

/-- `_operation_id`. -/
def lifecycleOperationId (idempotencyKey : String) : String :=
  "lifecycle-operation-" ++ Sha256.hexdigest 24 idempotencyKey

/-- `_tombstone_sha256`. -/
def lifecycleTombstone (command : DataLifecycleCommand) : String :=
  Sha256.hexdigest 64 (command.val.tenantId ++ ":" ++ command.val.candidateId ++ ":" ++
    command.val.authorityRef ++ ":" ++ command.val.changeReference)

end

/-- The receipt a command brings, unless it is a dry run. -/
def DataLifecycleCommand.claimedAuthority (command : DataLifecycleCommand) :
    Option VerifiedLifecycleAuthorityReceipt :=
  if command.val.dryRun then none else command.val.authorityReceipt

def DataLifecycleCommand.claimedArchive (command : DataLifecycleCommand) :
    Option VerifiedArchiveLifecycleReceipt :=
  if command.val.dryRun then none else command.val.archiveLifecycleReceipt

/-- The checks of the table on the receipts of an operation. -/
def DataLifecycleCommand.receiptsVerifiedAfterRequest (command : DataLifecycleCommand) : Bool :=
  (command.claimedAuthority.all fun receipt =>
    decide (command.val.requestedAtUtc ≤ receipt.val.verifiedAtUtc)) &&
  command.claimedArchive.all fun receipt =>
    decide (command.val.requestedAtUtc ≤ receipt.val.verifiedAtUtc)

namespace LifecycleStore

/-- The rows of a query on operations in their order: the first of them is read. -/
def firstOperation (rows : List DataLifecycleOperationRow) : Option DataLifecycleOperationRow :=
  (Sql.orderBy (fun row => toLex (row.evaluatedAtUtc.instant, row.operationId)) rows).head?

/-- `_load_operation`. -/
def loadOperation (s : LifecycleStore) (idempotencyKey : String) :
    Option DataLifecycleOperationRow :=
  s.operations.find? fun row => row.idempotencyKey = idempotencyKey

/-- Some operation has used the authority receipt. -/
def authorityClaimed (s : LifecycleStore) (command : DataLifecycleCommand) : Bool :=
  command.claimedAuthority.any fun receipt => s.operations.any fun row =>
    row.authorityDecisionId = some receipt.val.decisionId ||
      row.authorityReplayNonce = some receipt.val.replayNonce

/-- An applied operation has used the archive receipt. -/
def archiveClaimed (s : LifecycleStore) (command : DataLifecycleCommand) : Bool :=
  command.claimedArchive.any fun receipt => s.operations.any fun row =>
    decide (row.decision = .applied) &&
      (row.archiveDecisionId = some receipt.val.decisionId ||
        row.archivePayloadDigest = some receipt.val.payloadDigest)

/-- `_claimable_authority_operation`. -/
def claimableAuthorityOperation (s : LifecycleStore) (command : DataLifecycleCommand) :
    Option DataLifecycleOperationRow :=
  command.claimedAuthority.bind fun receipt => firstOperation <| s.operations.filter fun row =>
    row.authorityDecisionId = some receipt.val.decisionId ||
      row.authorityReplayNonce = some receipt.val.replayNonce

/-- `_claimable_archive_operation`. -/
def claimableArchiveOperation (s : LifecycleStore) (command : DataLifecycleCommand) :
    Option DataLifecycleOperationRow :=
  command.claimedArchive.bind fun receipt => firstOperation <| s.operations.filter fun row =>
    decide (row.decision = .applied) &&
      (row.archiveDecisionId = some receipt.val.decisionId ||
        row.archivePayloadDigest = some receipt.val.payloadDigest)

/-- `candidate_json["access_scope"]["tenant_id"]`, where both are there. -/
def storedTenantId : Json → Option String
  | .obj fields =>
      match Json.field? fields "access_scope" with
      | some (.obj scope) =>
          match Json.field? scope "tenant_id" with
          | some (.str tenantId) => some tenantId
          | _ => none
      | _ => none
  | _ => none

/-- The tenant of the candidate, which a tombstone keeps in its control only. -/
def contextTenantId (row : CandidateRow) (control : Option DataLifecycleControl) :
    Option String :=
  let tenantId :=
    match storedTenantId row.candidateJson, control with
    | none, some control => if control.isTombstone then some control.val.tenantId else none
    | tenantId, _ => tenantId
  tenantId.filter fun text => text ≠ ""

/-- `_load_control`. -/
def loadControl (s : LifecycleStore) (candidateId : String) :
    Except PyError (Option DataLifecycleControl) :=
  match s.controls.get? candidateId with
  | none => .ok none
  | some fields => do
      let control ← Checked.make DataLifecycleControlFields.checks fields
      return some control

/-- `_load_candidate_context`. -/
def loadCandidateContext (s : LifecycleStore) (candidateId : String) (work : CandidateWork) :
    Except PyError DataLifecycleCandidateContext :=
  match s.candidates.get? candidateId with
  | none =>
      Checked.make DataLifecycleCandidateContextFields.checks
        { candidateExists := false, candidateTenantId := none, control := none
          activeOutboxCount := 0, activeDownstreamCount := 0 }
  | some row => do
      let control ← s.loadControl candidateId
      Checked.make DataLifecycleCandidateContextFields.checks
        { candidateExists := true
          candidateTenantId := contextTenantId row control
          control := control
          activeOutboxCount := work.activeOutboxCount
          activeDownstreamCount := work.activeDownstreamCount
          linkedReportEvidencePackIds := work.linkedReportEvidencePackIds }

/-- What an erasure leaves of `candidate_json`. -/
def redactedCandidateJson (tombstone : String) : Json :=
  .obj [("data_lifecycle_state", .str "erased"), ("tombstone_sha256", .str tombstone)]

/-- The update of `idea_candidate_record` in `redact_candidate_graph`. -/
def redactCandidate (s : LifecycleStore) (candidateId tombstone : String) : LifecycleStore :=
  match s.candidates.get? candidateId with
  | none => s
  | some row =>
      { s with
        candidates := s.candidates.set candidateId
          { row with candidateJson := redactedCandidateJson tombstone } }

/-- `_update_control`. -/
def updateControl (s : LifecycleStore) (control : DataLifecycleControl) : LifecycleStore :=
  { s with controls := s.controls.set control.val.candidateId control.val }

section
variable [Sha256]

/-- `_apply_controlled_mutation`: the control it leaves, and the tables. -/
def applyControlledMutation (s : LifecycleStore) (command : DataLifecycleCommand)
    (evaluation : DataLifecycleEvaluation) (control : DataLifecycleControl) :
    Except PyError (DataLifecycleControl × LifecycleStore) :=
  if evaluation.redactionRequired then do
    let tombstone := lifecycleTombstone command
    let control ← Checked.make DataLifecycleControlFields.checks
      { control.val with tombstoneSha256 := some tombstone }
    return (control, (s.redactCandidate command.val.candidateId tombstone).updateControl control)
  else .ok (control, s.updateControl control)

/-- The row of `_insert_operation`. -/
def operationRow (command : DataLifecycleCommand) (evaluation : DataLifecycleEvaluation)
    (affected : Dict String Nat) (evaluatedAtUtc : DateTime) : DataLifecycleOperationRow where
  operationId := lifecycleOperationId command.val.idempotencyKey
  idempotencyKey := command.val.idempotencyKey
  requestFingerprint := command.val.requestFingerprint
  candidateId := command.val.candidateId
  decision := evaluation.decision
  dryRun := command.val.dryRun
  blockers := evaluation.blockers
  affectedRowCounts := affected
  evaluatedAtUtc := evaluatedAtUtc
  authorityDecisionId := command.claimedAuthority.map fun receipt => receipt.val.decisionId
  authorityReplayNonce := command.claimedAuthority.map fun receipt => receipt.val.replayNonce
  archiveDecisionId := command.claimedArchive.map fun receipt => receipt.val.decisionId
  archivePayloadDigest := command.claimedArchive.map fun receipt => receipt.val.payloadDigest

/-- Another operation already has the primary key.  The other unique columns have
been looked up before. -/
def operationIdTaken (s : LifecycleStore) (command : DataLifecycleCommand) : Bool :=
  s.operations.any fun row => row.operationId = lifecycleOperationId command.val.idempotencyKey

def insertOperation (s : LifecycleStore) (command : DataLifecycleCommand)
    (row : DataLifecycleOperationRow) : Except PyError LifecycleStore :=
  if s.operationIdTaken command then .error (.runtimeError "duplicate operation_id")
  else if !command.receiptsVerifiedAfterRequest then
    .error (.runtimeError "receipt check of idea_data_lifecycle_operation")
  else .ok { s with operations := s.operations ++ [row] }

/-- The mutation of an applied evaluation with the control it leaves; no other
evaluation changes a row. -/
def mutationOf (s : LifecycleStore) (command : DataLifecycleCommand)
    (evaluation : DataLifecycleEvaluation) :
    Except PyError (Option DataLifecycleControl × LifecycleStore) :=
  match evaluation.decision, evaluation.projectedControl with
  | .applied, some control => do
      let (control, after) ← s.applyControlledMutation command evaluation control
      return (some control, after)
  | _, control => .ok (control, s)

/-- The rows an applied evaluation affects in each table. -/
def affectedRowCounts (work : CandidateWork) (evaluation : DataLifecycleEvaluation) :
    Dict String Nat :=
  match evaluation.decision, evaluation.projectedControl with
  | .applied, some _ =>
      (if evaluation.redactionRequired then work.redactedRowCounts
        else if evaluation.purgeRequired then work.purgedRowCounts else Dict.empty).set
        "idea_data_lifecycle_control" 1
  | _, _ => Dict.empty

/-- The answer about an operation that is evaluated. -/
def operationResult (command : DataLifecycleCommand) (evaluation : DataLifecycleEvaluation)
    (control : Option DataLifecycleControl) (affected : Dict String Nat) :
    DataLifecycleOperationResult where
  operationId := lifecycleOperationId command.val.idempotencyKey
  decision := evaluation.decision
  control := control
  blockers := evaluation.blockers
  dryRun := command.val.dryRun
  affectedRowCounts := affected

/-- `_apply_evaluation`. -/
def applyEvaluation (s : LifecycleStore) (command : DataLifecycleCommand) (work : CandidateWork)
    (evaluation : DataLifecycleEvaluation) (evaluatedAtUtc : DateTime) :
    Except PyError (DataLifecycleOperationResult × LifecycleStore) :=
  if evaluation.decision = .notFound then
    .ok (operationResult command evaluation none Dict.empty, s)
  else do
    let (control, applied) ← s.mutationOf command evaluation
    let affected := affectedRowCounts work evaluation
    let recorded ← applied.insertOperation command
      (operationRow command evaluation affected evaluatedAtUtc)
    return (operationResult command evaluation control affected, recorded)

/-- The answer that repeats an operation recorded before. -/
def recordedResult (existing : DataLifecycleOperationRow) (control : Option DataLifecycleControl)
    (decision : DataLifecycleDecision) (blockers : List DataLifecycleBlocker) :
    DataLifecycleOperationResult where
  operationId := existing.operationId
  decision := decision
  control := control
  blockers := blockers
  dryRun := existing.dryRun
  affectedRowCounts := existing.affectedRowCounts

/-- What `_replay_or_conflict`, `_authority_replay_conflict` and
`_archive_posture_replay_conflict` answer from an operation recorded before. -/
def answerFrom (s : LifecycleStore) (existing : DataLifecycleOperationRow) (candidateId : String)
    (decision : DataLifecycleDecision) (blockers : List DataLifecycleBlocker) :
    Except PyError (DataLifecycleOperationResult × LifecycleStore) := do
  let control ← s.loadControl candidateId
  return (recordedResult existing control decision blockers, s)

/-- `execute_data_lifecycle`: its answer, and the tables after its commit. -/
def executeDataLifecycle (s : LifecycleStore) (command : DataLifecycleCommand)
    (work : CandidateWork) (evaluatedAtUtc : DateTime) :
    Except PyError (DataLifecycleOperationResult × LifecycleStore) :=
  match s.loadOperation command.val.idempotencyKey with
  | some existing =>
      if existing.requestFingerprint = command.val.requestFingerprint then
        s.answerFrom existing existing.candidateId .replayed []
      else s.answerFrom existing existing.candidateId .conflict [.idempotencyConflict]
  | none =>
      match s.claimableAuthorityOperation command with
      | some existing =>
          s.answerFrom existing command.val.candidateId .conflict [.authorityAttestationReplay]
      | none =>
          match s.claimableArchiveOperation command with
          | some existing =>
              s.answerFrom existing command.val.candidateId .conflict [.archivePostureReplay]
          | none => do
              let context ← s.loadCandidateContext command.val.candidateId work
              let evaluation ← evaluateDataLifecycle command context evaluatedAtUtc
              s.applyEvaluation command work evaluation evaluatedAtUtc

end

end LifecycleStore

/-! ## Runs -/

inductive LifecycleCall where
  | execute (command : DataLifecycleCommand) (work : CandidateWork) (evaluatedAtUtc : DateTime)
  | write (record : CandidateWrite)

section
variable [Sha256]

/-- A call that raises is rolled back. -/
def LifecycleStore.step (s : LifecycleStore) : LifecycleCall → LifecycleStore
  | .execute command work evaluatedAtUtc =>
      match s.executeDataLifecycle command work evaluatedAtUtc with
      | .ok (_, after) => after
      | .error _ => s
  | .write record =>
      match s.writeCandidate record with
      | .ok after => after
      | .error _ => s

def LifecycleStore.run (s : LifecycleStore) (calls : List LifecycleCall) : LifecycleStore :=
  Runs.run LifecycleStore.step s calls

/-! ## What a call changes -/

namespace LifecycleStore

/-- What a write that does not raise has done. -/
inductive CandidateWritten (s : LifecycleStore) (record : CandidateWrite)
    (after : LifecycleStore) : Prop where
  | inserted
      (absent : s.candidates.get? record.candidate.val.candidateId = none)
      (candidates : after.candidates =
        s.candidates.set record.candidate.val.candidateId record.row)
      (controls : after.controls = s.controls ∨
        ∃ scope, s.controls.get? record.candidate.val.candidateId = none ∧ after.controls =
          s.controls.set record.candidate.val.candidateId (initialControl record scope))
  | updated (row : CandidateRow) (control : DataLifecycleControlFields)
      (stored : s.candidates.get? record.candidate.val.candidateId = some row)
      (controlled : s.controls.get? record.candidate.val.candidateId = some control)
      (living : ¬ (control.coveredState = .erased ∨ control.coveredState = .purged))
      (candidates : after.candidates =
        s.candidates.set record.candidate.val.candidateId (record.updated row))
      (controls : after.controls = s.controls)

theorem writeCandidate_ok {s after : LifecycleStore} {record : CandidateWrite}
    (run : s.writeCandidate record = .ok after) : CandidateWritten s record after := by
  simp only [writeCandidate] at run
  split at run
  · rename_i absent
    split at run
    · cases run
    · rename_i scope given
      cases run
      refine .inserted absent rfl ?_
      cases controlled : s.controls.get? record.candidate.val.candidateId with
      | none => exact .inr ⟨scope, rfl, rfl⟩
      | some control => exact .inl rfl
  · rename_i row stored
    split at run
    · cases run
    · rename_i control controlled
      split at run
      · cases run
      · rename_i living
        cases run
        exact .updated row control stored controlled living rfl rfl

/-- No operation stands in the way of the command. -/
structure Fresh (s : LifecycleStore) (command : DataLifecycleCommand) : Prop where
  key : s.loadOperation command.val.idempotencyKey = none
  authority : s.authorityClaimed command = false
  archive : s.archiveClaimed command = false
  operationId : s.operationIdTaken command = false
  receipts : command.receiptsVerifiedAfterRequest = true

/-- A fresh command whose action has been applied to the control of its candidate. -/
structure Applied (s : LifecycleStore) (command : DataLifecycleCommand) (work : CandidateWork)
    (evaluatedAtUtc : DateTime) (control projected : DataLifecycleControlFields)
    (redacted : Bool) (after : LifecycleStore) : Prop where
  fresh : s.Fresh command
  wet : command.val.dryRun = false
  admitted : ∃ context loaded,
    s.loadCandidateContext command.val.candidateId work = .ok context ∧
    LifecycleAdmitted command context evaluatedAtUtc loaded ∧ loaded.val = control
  valid : firstFailure projected.checks = none
  subject : SameSubject control projected
  transition : LifecycleTransition control projected command.val.action redacted
  controls : after.controls = s.controls.set projected.candidateId projected
  candidates : after.candidates =
    (if redacted then s.redactCandidate command.val.candidateId (lifecycleTombstone command)
      else s).candidates

omit [Sha256] in
theorem loadCandidateContext_control {s : LifecycleStore} {candidateId : String}
    {work : CandidateWork} {context : DataLifecycleCandidateContext}
    {control : DataLifecycleControl}
    (run : s.loadCandidateContext candidateId work = .ok context)
    (controlled : context.val.control = some control) :
    s.controls.get? candidateId = some control.val := by
  simp only [loadCandidateContext] at run
  cases stored : s.candidates.get? candidateId with
  | none =>
      simp only [stored] at run
      rw [Checked.make_eq_ok] at run
      rw [run] at controlled
      cases controlled
  | some row =>
      simp only [stored] at run
      obtain ⟨loaded, load, run⟩ := Except.seq_returns.mp run
      rw [Checked.make_eq_ok] at run
      rw [run] at controlled
      simp only [] at controlled
      subst controlled
      cases held : s.controls.get? candidateId with
      | none =>
          simp only [loadControl, held] at load
          cases load
      | some fields =>
          simp only [loadControl, held] at load
          obtain ⟨made, built, load⟩ := Except.seq_returns.mp load
          cases load
          rw [Checked.make_eq_ok.mp built]

theorem insertOperation_ok {s after : LifecycleStore} {command : DataLifecycleCommand}
    {row : DataLifecycleOperationRow} (run : s.insertOperation command row = .ok after) :
    s.operationIdTaken command = false ∧ command.receiptsVerifiedAfterRequest = true ∧
      after = { s with operations := s.operations ++ [row] } := by
  simp only [insertOperation] at run
  split at run
  · cases run
  · rename_i free
    split at run
    · cases run
    · rename_i verified
      cases run
      exact ⟨by simpa using free, by simpa using verified, rfl⟩

omit [Sha256] in
theorem firstOperation_eq_none {rows : List DataLifecycleOperationRow} :
    firstOperation rows = none ↔ rows = [] := by
  rw [firstOperation, Sql.head?_orderBy, Sql.firstBy, List.argmin_eq_none]

omit [Sha256] in
theorem claimableAuthorityOperation_eq_none {s : LifecycleStore}
    {command : DataLifecycleCommand} :
    s.claimableAuthorityOperation command = none ↔ s.authorityClaimed command = false := by
  simp only [claimableAuthorityOperation, authorityClaimed]
  cases command.claimedAuthority with
  | none => simp
  | some receipt => simp [firstOperation_eq_none, List.filter_eq_nil_iff, Option.any]

omit [Sha256] in
theorem claimableArchiveOperation_eq_none {s : LifecycleStore}
    {command : DataLifecycleCommand} :
    s.claimableArchiveOperation command = none ↔ s.archiveClaimed command = false := by
  simp only [claimableArchiveOperation, archiveClaimed]
  cases command.claimedArchive with
  | none => simp
  | some receipt => simp [firstOperation_eq_none, List.filter_eq_nil_iff, Option.any]

omit [Sha256] in
/-- An answer from an operation recorded before changes nothing. -/
theorem answerFrom_ok {s after : LifecycleStore} {existing : DataLifecycleOperationRow}
    {candidateId : String} {decision : DataLifecycleDecision}
    {blockers : List DataLifecycleBlocker} {result : DataLifecycleOperationResult}
    (run : s.answerFrom existing candidateId decision blockers = .ok (result, after)) :
    after = s ∧ ∃ control, result = recordedResult existing control decision blockers := by
  obtain ⟨control, _, run⟩ := Except.seq_returns.mp run
  cases run
  exact ⟨rfl, control, rfl⟩

omit [Sha256] in
@[simp] theorem redactCandidate_controls (s : LifecycleStore) (candidateId tombstone : String) :
    (s.redactCandidate candidateId tombstone).controls = s.controls := by
  rw [redactCandidate]
  split <;> rfl

omit [Sha256] in
@[simp] theorem redactCandidate_operations (s : LifecycleStore) (candidateId tombstone : String) :
    (s.redactCandidate candidateId tombstone).operations = s.operations := by
  rw [redactCandidate]
  split <;> rfl

/-- The control is updated, and the candidate redacted when the evaluation asks for it. -/
theorem applyControlledMutation_ok {s after : LifecycleStore} {command : DataLifecycleCommand}
    {evaluation : DataLifecycleEvaluation} {control committed : DataLifecycleControl}
    (run : s.applyControlledMutation command evaluation control = .ok (committed, after)) :
    (∃ tombstone, committed.val = { control.val with tombstoneSha256 := tombstone }) ∧
      after.controls = s.controls.set committed.val.candidateId committed.val ∧
      after.candidates = (if evaluation.redactionRequired then
        s.redactCandidate command.val.candidateId (lifecycleTombstone command) else s).candidates ∧
      after.operations = s.operations := by
  simp only [applyControlledMutation] at run
  split at run
  · rename_i redact
    obtain ⟨made, built, run⟩ := Except.seq_returns.mp run
    cases run
    refine ⟨⟨_, Checked.make_eq_ok.mp built⟩, ?_, ?_, ?_⟩
    · simp [updateControl]
    · simp [redact, updateControl]
    · simp [updateControl]
  · rename_i kept
    cases run
    exact ⟨⟨_, rfl⟩, rfl, by simp [kept, updateControl], rfl⟩

/-- An evaluation that is not applied changes no row. -/
theorem mutationOf_ok {s after : LifecycleStore} {command : DataLifecycleCommand}
    {evaluation : DataLifecycleEvaluation} {control : Option DataLifecycleControl}
    (run : s.mutationOf command evaluation = .ok (control, after)) :
    (after = s ∧ control = evaluation.projectedControl) ∨
    ∃ projected committed, evaluation.decision = .applied ∧
      evaluation.projectedControl = some projected ∧ control = some committed ∧
      s.applyControlledMutation command evaluation projected = .ok (committed, after) := by
  simp only [mutationOf] at run
  split at run
  · rename_i projected applied found
    obtain ⟨⟨committed, mutated⟩, applies, run⟩ := Except.seq_returns.mp run
    cases run
    exact .inr ⟨projected, committed, applied, found, rfl, applies⟩
  · cases run
    exact .inl ⟨rfl, rfl⟩

/-- How a command that does not raise is answered, and the tables after it. -/
inductive Executed (s : LifecycleStore) (command : DataLifecycleCommand) (work : CandidateWork)
    (evaluatedAtUtc : DateTime) : DataLifecycleOperationResult → LifecycleStore → Prop where
  | replayed (existing : DataLifecycleOperationRow)
      (found : s.loadOperation command.val.idempotencyKey = some existing)
      (same : existing.requestFingerprint = command.val.requestFingerprint)
      (control : Option DataLifecycleControl) :
      Executed s command work evaluatedAtUtc (recordedResult existing control .replayed []) s
  | conflicting (existing : DataLifecycleOperationRow)
      (found : s.loadOperation command.val.idempotencyKey = some existing)
      (other : existing.requestFingerprint ≠ command.val.requestFingerprint)
      (control : Option DataLifecycleControl) :
      Executed s command work evaluatedAtUtc
        (recordedResult existing control .conflict [.idempotencyConflict]) s
  | claimed (existing : DataLifecycleOperationRow) (control : Option DataLifecycleControl)
      (unknown : s.loadOperation command.val.idempotencyKey = none)
      (used : s.authorityClaimed command = true ∨ s.archiveClaimed command = true)
      (blockers : List DataLifecycleBlocker) :
      Executed s command work evaluatedAtUtc (recordedResult existing control .conflict blockers) s
  | absent (evaluation : DataLifecycleEvaluation)
      (unknown : s.loadOperation command.val.idempotencyKey = none)
      (missing : evaluation.decision = .notFound) :
      Executed s command work evaluatedAtUtc
        (operationResult command evaluation none Dict.empty) s
  | recorded (fresh : s.Fresh command) (context : DataLifecycleCandidateContext)
      (load : s.loadCandidateContext command.val.candidateId work = .ok context)
      (evaluation : DataLifecycleEvaluation)
      (evaluated : evaluateDataLifecycle command context evaluatedAtUtc = .ok evaluation)
      (present : evaluation.decision ≠ .notFound) (control : Option DataLifecycleControl)
      (mutated : LifecycleStore)
      (mutate : s.mutationOf command evaluation = .ok (control, mutated)) :
      Executed s command work evaluatedAtUtc
        (operationResult command evaluation control (affectedRowCounts work evaluation))
        { mutated with operations := s.operations ++
            [operationRow command evaluation (affectedRowCounts work evaluation)
              evaluatedAtUtc] }

theorem executeDataLifecycle_executed {s after : LifecycleStore} {command : DataLifecycleCommand}
    {work : CandidateWork} {evaluatedAtUtc : DateTime} {result : DataLifecycleOperationResult}
    (run : s.executeDataLifecycle command work evaluatedAtUtc = .ok (result, after)) :
    Executed s command work evaluatedAtUtc result after := by
  simp only [executeDataLifecycle] at run
  split at run
  · rename_i existing found
    split at run
    · rename_i same
      obtain ⟨rfl, control, rfl⟩ := answerFrom_ok run
      exact .replayed existing found same control
    · rename_i other
      obtain ⟨rfl, control, rfl⟩ := answerFrom_ok run
      exact .conflicting existing found other control
  · rename_i unknown
    split at run
    · rename_i existing claims
      obtain ⟨rfl, control, rfl⟩ := answerFrom_ok run
      refine .claimed existing control unknown (.inl ?_) _
      by_contra unclaimed
      rw [claimableAuthorityOperation_eq_none.mpr (by simpa using unclaimed)] at claims
      cases claims
    · rename_i authority
      split at run
      · rename_i existing claims
        obtain ⟨rfl, control, rfl⟩ := answerFrom_ok run
        refine .claimed existing control unknown (.inr ?_) _
        by_contra unclaimed
        rw [claimableArchiveOperation_eq_none.mpr (by simpa using unclaimed)] at claims
        cases claims
      · rename_i archive
        obtain ⟨context, load, run⟩ := Except.seq_returns.mp run
        obtain ⟨evaluation, evaluated, run⟩ := Except.seq_returns.mp run
        simp only [applyEvaluation] at run
        split at run
        · rename_i missing
          cases run
          exact .absent evaluation unknown missing
        · rename_i present
          obtain ⟨⟨control, mutated⟩, mutate, run⟩ := Except.seq_returns.mp run
          obtain ⟨recorded, insert, run⟩ := Except.seq_returns.mp run
          cases run
          obtain ⟨free, receipts, recorded⟩ := insertOperation_ok insert
          have operations : mutated.operations = s.operations := by
            rcases mutationOf_ok mutate with ⟨rfl, _⟩ | ⟨_, _, _, _, _, applies⟩
            · rfl
            · exact (applyControlledMutation_ok applies).2.2.2
          rw [operationIdTaken, operations] at free
          rw [recorded, operations]
          exact .recorded ⟨unknown, claimableAuthorityOperation_eq_none.mp authority,
            claimableArchiveOperation_eq_none.mp archive, free, receipts⟩ context load evaluation
            evaluated present control mutated mutate

/-- The tables of the controls and of the candidates are as they were, or a fresh
command has been applied to one of the controls. -/
theorem executeDataLifecycle_ok {s after : LifecycleStore} {command : DataLifecycleCommand}
    {work : CandidateWork} {evaluatedAtUtc : DateTime} {result : DataLifecycleOperationResult}
    (run : s.executeDataLifecycle command work evaluatedAtUtc = .ok (result, after)) :
    (after.candidates = s.candidates ∧ after.controls = s.controls) ∨
    ∃ control projected redacted, s.controls.get? command.val.candidateId = some control ∧
      s.Applied command work evaluatedAtUtc control projected redacted after := by
  cases executeDataLifecycle_executed run with
  | replayed | conflicting | claimed | absent => exact .inl ⟨rfl, rfl⟩
  | recorded fresh context load evaluation evaluated present control mutated mutate =>
      rcases mutationOf_ok mutate with ⟨rfl, _⟩ | ⟨projected, committed, applied, found, _, applies⟩
      · exact .inl ⟨rfl, rfl⟩
      · obtain ⟨loaded, projected', admitted, wet, names, subject, transition⟩ :=
          evaluateDataLifecycle_applied evaluated applied
        rw [found] at names
        cases names
        obtain ⟨⟨tombstone, value⟩, controls, candidates, _⟩ := applyControlledMutation_ok applies
        exact .inr ⟨loaded.val, committed.val, evaluation.redactionRequired,
          loadCandidateContext_control load admitted.controlled,
          { fresh := fresh
            wet := wet
            admitted := ⟨context, loaded, load, admitted, rfl⟩
            valid := committed.valid
            subject := by
              rw [value]
              exact ⟨subject.candidateId, subject.tenantId⟩
            transition := by
              rw [value]
              exact transition.withTombstone tombstone
            controls := controls
            candidates := candidates }⟩

/-- A fresh command whose evaluation is applied and redacts nothing updates the control. -/
theorem executeDataLifecycle_of_fresh {s : LifecycleStore} {command : DataLifecycleCommand}
    {work : CandidateWork} {evaluatedAtUtc : DateTime} {context : DataLifecycleCandidateContext}
    {evaluation : DataLifecycleEvaluation} {projected : DataLifecycleControl}
    (fresh : s.Fresh command)
    (load : s.loadCandidateContext command.val.candidateId work = .ok context)
    (evaluated : evaluateDataLifecycle command context evaluatedAtUtc = .ok evaluation)
    (applied : evaluation.decision = .applied)
    (found : evaluation.projectedControl = some projected)
    (kept : evaluation.redactionRequired = false) :
    ∃ result after, s.executeDataLifecycle command work evaluatedAtUtc = .ok (result, after) ∧
      after.candidates = s.candidates ∧
      after.controls = s.controls.set projected.val.candidateId projected.val := by
  have mutated : s.mutationOf command evaluation =
      .ok (some projected, s.updateControl projected) := by
    simp [mutationOf, applied, found, applyControlledMutation, kept, pure, Except.pure]
  have inserted (row : DataLifecycleOperationRow) :
      (s.updateControl projected).insertOperation command row =
        .ok { s.updateControl projected with operations := s.operations ++ [row] } := by
    have free : (s.updateControl projected).operationIdTaken command = false := fresh.operationId
    simp only [insertOperation, free, fresh.receipts, Bool.false_eq_true, if_false, Bool.not_true]
    rfl
  have applies : s.applyEvaluation command work evaluation evaluatedAtUtc =
      .ok (operationResult command evaluation (some projected) (affectedRowCounts work evaluation),
        { s.updateControl projected with
          operations := s.operations ++ [operationRow command evaluation
            (affectedRowCounts work evaluation) evaluatedAtUtc] }) := by
    simp [applyEvaluation, applied, mutated, inserted, pure, Except.pure]
  have run : s.executeDataLifecycle command work evaluatedAtUtc =
      s.applyEvaluation command work evaluation evaluatedAtUtc := by
    simp only [executeDataLifecycle, fresh.key, load, ok_bind, evaluated,
      claimableAuthorityOperation_eq_none.mpr fresh.authority,
      claimableArchiveOperation_eq_none.mpr fresh.archive]
  exact ⟨_, _, run.trans applies, rfl, rfl⟩

end LifecycleStore

end

end LotusIdea

import LotusIdea.Postgres.LifecycleRuns

/-!
# Answers to lifecycle commands that are sent again

A command whose key is known is answered from the operation recorded under it, and a
receipt that an applied operation has used is refused.  The answer repeats what the
operation recorded but for its blockers, so that it tells what happened exactly as
long as no command is sent again whose operation was blocked.
-/

set_option autoImplicit false

namespace LotusIdea

namespace LifecycleStore

/-! ## Operations that can be answered from -/

/-- The candidate of the operation is stored, and its control can be loaded. -/
structure Answerable (s : LifecycleStore) (row : DataLifecycleOperationRow) : Prop where
  stored : (s.candidates.get? row.candidateId).isSome = true
  valid : ∀ control, s.controls.get? row.candidateId = some control →
    firstFailure control.checks = none

theorem Answerable.loadControl_ok {s : LifecycleStore} {row : DataLifecycleOperationRow}
    (answerable : s.Answerable row) : ∃ control, s.loadControl row.candidateId = .ok control := by
  rw [loadControl]
  cases controlled : s.controls.get? row.candidateId with
  | none => exact ⟨none, rfl⟩
  | some fields =>
      simp only [Checked.make_of_valid (answerable.valid fields controlled)]
      exact ⟨_, rfl⟩

theorem Answerable.answers {s : LifecycleStore} {row : DataLifecycleOperationRow}
    (answerable : s.Answerable row) (decision : DataLifecycleDecision)
    (blockers : List DataLifecycleBlocker) : ∃ control,
    s.answerFrom row row.candidateId decision blockers =
      .ok (recordedResult row control decision blockers, s) := by
  obtain ⟨control, load⟩ := answerable.loadControl_ok
  refine ⟨control, ?_⟩
  rw [answerFrom, load]
  rfl

theorem isSome_redactCandidate {s : LifecycleStore} (candidateId tombstone : String) {id : String}
    (stored : (s.candidates.get? id).isSome = true) :
    ((s.redactCandidate candidateId tombstone).candidates.get? id).isSome = true := by
  by_cases same : id = candidateId
  · rw [same] at stored ⊢
    simpa [get?_redactCandidate_self] using stored
  · rw [get?_redactCandidate_of_ne s tombstone same]
    exact stored

section
variable [Sha256]

/-- Commands and writes leave every operation answerable. -/
theorem step_answerable {s : LifecycleStore} {row : DataLifecycleOperationRow}
    (answerable : s.Answerable row) (call : LifecycleCall) : (s.step call).Answerable row := by
  cases call with
  | write record =>
      rw [step]
      split
      · rename_i after run
        cases writeCandidate_ok run with
        | inserted absent candidates controls =>
            have other : row.candidateId ≠ record.candidate.val.candidateId := by
              intro same
              have stored := answerable.stored
              rw [same, absent] at stored
              cases stored
            constructor
            · rw [candidates, Dict.get?_set_of_ne _ other]
              exact answerable.stored
            · rcases controls with kept | ⟨scope, _, added⟩
              · rw [kept]
                exact answerable.valid
              · rw [added, Dict.get?_set_of_ne _ other]
                exact answerable.valid
        | updated old control stored controlled living candidates controls =>
            constructor
            · rw [candidates]
              exact Dict.isSome_get?_set _ _ answerable.stored
            · rw [controls]
              exact answerable.valid
      · exact answerable
  | execute command work evaluatedAtUtc =>
      rw [step]
      split
      · rename_i result after run
        rcases executeDataLifecycle_ok run with ⟨candidates, controls⟩ |
          ⟨control, projected, redacted, held, applied⟩
        · exact ⟨by rw [candidates]; exact answerable.stored,
            by rw [controls]; exact answerable.valid⟩
        · constructor
          · rw [applied.candidates]
            cases redacted with
            | true => exact isSome_redactCandidate _ _ answerable.stored
            | false => exact answerable.stored
          · intro found stored
            rw [applied.controls, Dict.get?_set] at stored
            split at stored
            · cases stored
              exact applied.valid
            · exact answerable.valid found stored
      · exact answerable

omit [Sha256] in
/-- A command that is answered about a candidate has found the candidate, and has
loaded its control. -/
theorem answerable_of_evaluated {s : LifecycleStore} {command : DataLifecycleCommand}
    {work : CandidateWork} {evaluatedAtUtc : DateTime} {context : DataLifecycleCandidateContext}
    {e : DataLifecycleEvaluation} {row : DataLifecycleOperationRow}
    (about : row.candidateId = command.val.candidateId)
    (load : s.loadCandidateContext command.val.candidateId work = .ok context)
    (evaluated : evaluateDataLifecycle command context evaluatedAtUtc = .ok e)
    (present : e.decision ≠ .notFound) : s.Answerable row := by
  rw [loadCandidateContext] at load
  cases stored : s.candidates.get? command.val.candidateId with
  | none =>
      simp only [stored] at load
      have missing : context.val.candidateExists = false := by
        rw [Checked.make_eq_ok.mp load]
      simp only [evaluateDataLifecycle, missing] at evaluated
      split at evaluated
      · cases evaluated
      · cases evaluated
        exact absurd rfl present
  | some found =>
      simp only [stored] at load
      obtain ⟨control, loaded, _⟩ := Except.seq_returns.mp load
      refine ⟨by rw [about, stored]; rfl, ?_⟩
      intro fields controlled
      rw [about] at controlled
      simp only [loadControl, controlled] at loaded
      obtain ⟨made, built, _⟩ := Except.seq_returns.mp loaded
      rw [← Checked.make_eq_ok.mp built]
      exact made.valid

/-- A write records no operation. -/
theorem writeCandidate_operations {s after : LifecycleStore} {record : CandidateWrite}
    (run : s.writeCandidate record = .ok after) : after.operations = s.operations := by
  simp only [writeCandidate] at run
  split at run
  · split at run
    · cases run
    · cases run
      rfl
  · split at run
    · cases run
    · split at run
      · cases run
      · cases run
        rfl

/-- A call leaves the operations as they are, or a fresh command records one more. -/
theorem step_operations (s : LifecycleStore) (call : LifecycleCall) :
    (s.step call).operations = s.operations ∨
    ∃ command work evaluatedAtUtc context e affected,
      call = .execute command work evaluatedAtUtc ∧ s.Fresh command ∧
      s.loadCandidateContext command.val.candidateId work = .ok context ∧
      evaluateDataLifecycle command context evaluatedAtUtc = .ok e ∧ e.decision ≠ .notFound ∧
      (s.step call).operations =
        s.operations ++ [operationRow command e affected evaluatedAtUtc] := by
  cases call with
  | write record =>
      left
      rw [step]
      split
      · rename_i after run
        exact writeCandidate_operations run
      · rfl
  | execute command work evaluatedAtUtc =>
      rw [step]
      split
      · rename_i result after run
        cases executeDataLifecycle_executed run with
        | replayed | conflicting | claimed | absent => exact .inl rfl
        | recorded fresh context load e evaluated present control mutated mutate =>
            exact .inr ⟨command, work, evaluatedAtUtc, context, e, _, rfl, fresh, load, evaluated,
              present, rfl⟩
      · exact .inl rfl

theorem step_allAnswerable {s : LifecycleStore} (call : LifecycleCall)
    (all : ∀ row ∈ s.operations, s.Answerable row) :
    ∀ row ∈ (s.step call).operations, (s.step call).Answerable row := by
  intro row member
  refine step_answerable ?_ call
  rcases step_operations s call with same | ⟨command, work, evaluatedAtUtc, context, e, affected,
    _, _, load, evaluated, present, added⟩
  · exact all row (same ▸ member)
  · rw [added] at member
    rcases List.mem_append.mp member with old | new
    · exact all row old
    · rw [List.mem_singleton.mp new]
      exact answerable_of_evaluated rfl load evaluated present

theorem run_allAnswerable (calls : List LifecycleCall) :
    ∀ row ∈ (empty.run calls).operations, (empty.run calls).Answerable row :=
  Runs.invariant step (fun _ => True)
    (fun s => ∀ row ∈ s.operations, s.Answerable row)
    (fun _ call _ all => step_allAnswerable call all) (by simp [empty]) fun _ _ => trivial

/-! ## Operations are kept -/

theorem run_operations_prefix (s : LifecycleStore) (calls : List LifecycleCall) :
    s.operations <+: (s.run calls).operations := by
  induction calls generalizing s with
  | nil => exact List.prefix_rfl
  | cons call rest ih =>
      have first : s.operations <+: (s.step call).operations := by
        rcases step_operations s call with same | ⟨_, _, _, _, _, _, _, _, _, _, _, added⟩
        · exact same ▸ List.prefix_rfl
        · rw [added]
          exact List.prefix_append _ _
      exact first.trans (ih (s.step call))

/-- The operation under a key stays the operation under it. -/
theorem loadOperation_persists {s : LifecycleStore} {key : String}
    {row : DataLifecycleOperationRow} (found : s.loadOperation key = some row)
    (calls : List LifecycleCall) : (s.run calls).loadOperation key = some row := by
  obtain ⟨more, added⟩ := run_operations_prefix s calls
  rw [loadOperation] at found
  rw [loadOperation, ← added, List.find?_append, found]
  rfl

/-- The command has recorded an operation, which is the first under its key. -/
structure Records (s : LifecycleStore) (command : DataLifecycleCommand) (work : CandidateWork)
    (evaluatedAtUtc : DateTime) (original : DataLifecycleOperationResult)
    (after : LifecycleStore) : Prop where
  run : s.executeDataLifecycle command work evaluatedAtUtc = .ok (original, after)
  unknown : s.loadOperation command.val.idempotencyKey = none
  known : (after.loadOperation command.val.idempotencyKey).isSome = true

/-- The operation recorded repeats the command and its answer. -/
structure RecordOf (row : DataLifecycleOperationRow) (command : DataLifecycleCommand)
    (original : DataLifecycleOperationResult) : Prop where
  requestFingerprint : row.requestFingerprint = command.val.requestFingerprint
  operationId : row.operationId = original.operationId
  decision : row.decision = original.decision
  dryRun : row.dryRun = original.dryRun
  affectedRowCounts : row.affectedRowCounts = original.affectedRowCounts
  blockers : row.blockers = original.blockers
  blocked : row.decision = .blocked ↔ row.blockers ≠ []

theorem Records.row {s after : LifecycleStore} {command : DataLifecycleCommand}
    {work : CandidateWork} {evaluatedAtUtc : DateTime} {original : DataLifecycleOperationResult}
    (records : s.Records command work evaluatedAtUtc original after) :
    ∃ row, after.loadOperation command.val.idempotencyKey = some row ∧
      RecordOf row command original := by
  obtain ⟨run, unknown, known⟩ := records
  cases executeDataLifecycle_executed run with
  | replayed | conflicting | claimed | absent =>
      rw [unknown] at known
      cases known
  | recorded fresh context load e evaluated present control mutated mutate =>
      refine ⟨operationRow command e (affectedRowCounts work e) evaluatedAtUtc, ?_, rfl, rfl, rfl,
        rfl, rfl, rfl, evaluateDataLifecycle_blocked_iff evaluated present⟩
      rw [loadOperation] at unknown
      rw [loadOperation, List.find?_append, unknown]
      simp [operationRow]

/-- An operation that a run has recorded was recorded by one of its commands. -/
theorem recorded_by {calls : List LifecycleCall} {key : String} {row : DataLifecycleOperationRow}
    (found : (empty.run calls).loadOperation key = some row) :
    ∃ first command work evaluatedAtUtc later original after,
      calls = first ++ .execute command work evaluatedAtUtc :: later ∧
      command.val.idempotencyKey = key ∧
      (empty.run first).Records command work evaluatedAtUtc original after ∧
      RecordOf row command original := by
  have absent : ¬ (empty.loadOperation key).isSome = true := by simp [loadOperation, empty]
  obtain ⟨first, call, later, rfl, before, now⟩ :=
    Runs.first_cause step (fun s => (s.loadOperation key).isSome = true) absent
      (show ((empty.run calls).loadOperation key).isSome = true by rw [found]; rfl)
  have unknown : (empty.run first).loadOperation key = none := by
    simpa [LifecycleStore.run] using before
  have known : (((empty.run first).step call).loadOperation key).isSome = true := now
  have whole : empty.run (first ++ call :: later) = ((empty.run first).step call).run later := by
    simp [LifecycleStore.run]
  have silent (same : ((empty.run first).step call).operations = (empty.run first).operations) :
      False := by
    rw [loadOperation, same, ← loadOperation, unknown] at known
    cases known
  rcases step_operations (empty.run first) call with same |
    ⟨command, work, evaluatedAtUtc, _, e, affected, rfl, _, _, _, _, added⟩
  · exact absurd same fun same => silent same
  · have named : command.val.idempotencyKey = key := by
      rw [loadOperation] at unknown
      rw [loadOperation, added, List.find?_append, unknown] at known
      by_contra other
      simp [operationRow, other] at known
    subst named
    cases run : (empty.run first).executeDataLifecycle command work evaluatedAtUtc with
    | error error =>
        refine absurd ?_ silent
        rw [step, run]
    | ok answer =>
        obtain ⟨original, after⟩ := answer
        have next : (empty.run first).step (.execute command work evaluatedAtUtc) = after := by
          rw [step, run]
        rw [next] at known whole
        have records : (empty.run first).Records command work evaluatedAtUtc original after :=
          ⟨run, unknown, known⟩
        obtain ⟨recorded, stored, repeats⟩ := records.row
        rw [whole, loadOperation_persists stored later] at found
        cases found
        exact ⟨first, command, work, evaluatedAtUtc, later, original, after, rfl, rfl, records,
          repeats⟩

/-! ## Receipts are used once -/

/-- No two applied operations share a receipt. -/
def ReceiptsUsedOnce (s : LifecycleStore) : Prop :=
  s.operations.Pairwise fun a b => a.decision = .applied → b.decision = .applied →
    (∀ id, a.authorityDecisionId = some id → b.authorityDecisionId ≠ some id) ∧
    (∀ nonce, a.authorityReplayNonce = some nonce → b.authorityReplayNonce ≠ some nonce) ∧
    (∀ id, a.archiveDecisionId = some id → b.archiveDecisionId ≠ some id) ∧
    (∀ digest, a.archivePayloadDigest = some digest → b.archivePayloadDigest ≠ some digest)

theorem step_receiptsUsedOnce {s : LifecycleStore} (once : s.ReceiptsUsedOnce)
    (call : LifecycleCall) : (s.step call).ReceiptsUsedOnce := by
  rcases step_operations s call with same |
    ⟨command, work, evaluatedAtUtc, _, e, affected, _, fresh, _, _, _, added⟩
  · rw [ReceiptsUsedOnce, same]
    exact once
  · rw [ReceiptsUsedOnce, added, List.pairwise_append]
    refine ⟨once, List.pairwise_singleton _ _, ?_⟩
    intro a known b new usedA _
    rw [List.mem_singleton.mp new]
    have authority := fresh.authority
    have archive := fresh.archive
    simp only [authorityClaimed, Option.any_eq_false, List.any_eq_false, Bool.or_eq_true,
      decide_eq_true_eq, not_or] at authority
    simp only [archiveClaimed, Option.any_eq_false, List.any_eq_false, Bool.and_eq_true,
      Bool.or_eq_true, decide_eq_true_eq, not_and, not_or] at archive
    refine ⟨?_, ?_, ?_, ?_⟩
    · rintro id held again
      obtain ⟨receipt, claims, rfl⟩ := Option.map_eq_some_iff.mp again
      exact (authority receipt claims a known).1 held
    · rintro nonce held again
      obtain ⟨receipt, claims, rfl⟩ := Option.map_eq_some_iff.mp again
      exact (authority receipt claims a known).2 held
    · rintro id held again
      obtain ⟨receipt, claims, rfl⟩ := Option.map_eq_some_iff.mp again
      exact (archive receipt claims a known usedA).1 held
    · rintro digest held again
      obtain ⟨receipt, claims, rfl⟩ := Option.map_eq_some_iff.mp again
      exact (archive receipt claims a known usedA).2 held

theorem run_receiptsUsedOnce (calls : List LifecycleCall) :
    (empty.run calls).ReceiptsUsedOnce :=
  Runs.invariant step (fun _ => True) ReceiptsUsedOnce
    (fun _ call _ once => step_receiptsUsedOnce once call)
    (show empty.ReceiptsUsedOnce from List.Pairwise.nil) fun _ _ => trivial

/-! ## What the answers tell -/

/-- A command that is sent again changes nothing, and its answer repeats what the
operation recorded, its blockers among it. -/
def ReplaysTell (calls : List LifecycleCall) : Prop :=
  ∀ first command work evaluatedAtUtc middle again work' evaluatedAtUtc' later,
    calls = first ++ .execute command work evaluatedAtUtc ::
      (middle ++ .execute again work' evaluatedAtUtc' :: later) →
    ∀ original after,
      (empty.run first).Records command work evaluatedAtUtc original after →
      again.val.idempotencyKey = command.val.idempotencyKey →
      again.val.requestFingerprint = command.val.requestFingerprint →
      ∃ answer, (after.run middle).executeDataLifecycle again work' evaluatedAtUtc' =
          .ok (answer, after.run middle) ∧
        answer.decision = .replayed ∧ answer.operationId = original.operationId ∧
        answer.dryRun = original.dryRun ∧
        answer.affectedRowCounts = original.affectedRowCounts ∧
        answer.blockers = original.blockers

/-- A command under a known key with another fingerprint is a conflict that changes
nothing. -/
def ConflictsRefused (calls : List LifecycleCall) : Prop :=
  ∀ first command work evaluatedAtUtc later,
    calls = first ++ .execute command work evaluatedAtUtc :: later →
    ∀ row, (empty.run first).loadOperation command.val.idempotencyKey = some row →
      row.requestFingerprint ≠ command.val.requestFingerprint →
      ∃ answer, (empty.run first).executeDataLifecycle command work evaluatedAtUtc =
          .ok (answer, empty.run first) ∧
        answer.decision = .conflict ∧ answer.blockers = [.idempotencyConflict]

structure LifecycleReported (calls : List LifecycleCall) : Prop where
  replays : ReplaysTell calls
  conflicts : ConflictsRefused calls
  once : ∀ first, first <+: calls → (empty.run first).ReceiptsUsedOnce

/-- The call sends a command again whose operation was blocked. -/
def ResendsBlocked (s : LifecycleStore) : LifecycleCall → Prop
  | .write _ => False
  | .execute command _ _ => ∃ row, s.loadOperation command.val.idempotencyKey = some row ∧
      row.requestFingerprint = command.val.requestFingerprint ∧ row.decision = .blocked

theorem run_conflictsRefused (calls : List LifecycleCall) : ConflictsRefused calls := by
  rintro first command work evaluatedAtUtc later rfl row found other
  have listed : row ∈ (empty.run first).operations := List.mem_of_find?_eq_some found
  obtain ⟨control, answer⟩ := (run_allAnswerable first row listed).answers .conflict
    [.idempotencyConflict]
  refine ⟨recordedResult row control .conflict [.idempotencyConflict], ?_, rfl, rfl⟩
  simp only [executeDataLifecycle, found, if_neg other]
  exact answer

/-- A command that is sent again is answered from the operation, without blockers. -/
theorem replayed_answer {s : LifecycleStore} (all : ∀ row ∈ s.operations, s.Answerable row)
    {command : DataLifecycleCommand} {row : DataLifecycleOperationRow}
    (found : s.loadOperation command.val.idempotencyKey = some row)
    (same : row.requestFingerprint = command.val.requestFingerprint) (work : CandidateWork)
    (evaluatedAtUtc : DateTime) : ∃ control,
    s.executeDataLifecycle command work evaluatedAtUtc =
      .ok (recordedResult row control .replayed [], s) := by
  have listed : row ∈ s.operations := List.mem_of_find?_eq_some found
  obtain ⟨control, answer⟩ := (all row listed).answers .replayed []
  refine ⟨control, ?_⟩
  simp only [executeDataLifecycle, found, if_pos same]
  exact answer

/-- Lifecycle requests report what happened, once, exactly when no command is sent
again whose operation was blocked. -/
theorem lifecycleReported_iff (calls : List LifecycleCall) :
    LifecycleReported calls ↔
      Runs.Throughout step (fun s call => ¬ s.ResendsBlocked call) empty calls := by
  constructor
  · intro reported
    rw [Runs.throughout_iff]
    rintro first call later rfl resends
    cases call with
    | write record => exact resends
    | execute again work' evaluatedAtUtc' =>
        obtain ⟨row, found, same, blocked⟩ := resends
        obtain ⟨earlier, command, work, evaluatedAtUtc, middle, original, after, rfl, named,
          records, repeats⟩ := recorded_by found
        have state : after.run middle =
            empty.run (earlier ++ .execute command work evaluatedAtUtc :: middle) := by
          have next : (empty.run earlier).step (.execute command work evaluatedAtUtc) = after := by
            rw [step, records.run]
          simp [LifecycleStore.run, ← next]
        obtain ⟨answer, run, _, _, _, _, tells⟩ := reported.replays earlier command work
          evaluatedAtUtc middle again work' evaluatedAtUtc' later (by simp) original after records
          named.symm (same.symm.trans repeats.requestFingerprint)
        rw [state] at run
        obtain ⟨control, replayed⟩ :=
          replayed_answer (run_allAnswerable _) found same work' evaluatedAtUtc'
        rw [replayed] at run
        cases run
        have some_blocker := repeats.blocked.mp blocked
        rw [repeats.blockers, ← tells] at some_blocker
        exact some_blocker rfl
  · intro spared
    refine ⟨?_, run_conflictsRefused calls, fun first _ => run_receiptsUsedOnce first⟩
    rintro first command work evaluatedAtUtc middle again work' evaluatedAtUtc' later rfl original
      after records sameKey sameFingerprint
    have next : (empty.run first).step (.execute command work evaluatedAtUtc) = after := by
      rw [step, records.run]
    have state : after.run middle =
        empty.run (first ++ .execute command work evaluatedAtUtc :: middle) := by
      simp [LifecycleStore.run, ← next]
    obtain ⟨row, stored, repeats⟩ := records.row
    have found : (after.run middle).loadOperation again.val.idempotencyKey = some row := by
      rw [sameKey]
      exact loadOperation_persists stored middle
    have same : row.requestFingerprint = again.val.requestFingerprint :=
      repeats.requestFingerprint.trans sameFingerprint.symm
    obtain ⟨control, replayed⟩ := replayed_answer
      (by rw [state]; exact run_allAnswerable _) found same work' evaluatedAtUtc'
    have unblocked := (Runs.throughout_iff.mp spared)
      (first ++ .execute command work evaluatedAtUtc :: middle)
      (.execute again work' evaluatedAtUtc') later (by simp)
    have none : row.blockers = [] := by
      by_contra some_blocker
      refine unblocked ⟨row, ?_, same, repeats.blocked.mpr some_blocker⟩
      rw [← LifecycleStore.run, ← state]
      exact found
    refine ⟨recordedResult row control .replayed [], replayed, rfl, repeats.operationId, repeats.dryRun, repeats.affectedRowCounts, ?_⟩
    rw [← repeats.blockers, none]
    rfl

end

/-! ## An erasure that is blocked and sent again -/

def sampleBusyWork : CandidateWork where
  activeOutboxCount := 1
  activeDownstreamCount := 0
  linkedReportEvidencePackIds := []

def sampleBlockedErase : LifecycleCall := .execute sampleEraseCommand sampleBusyWork (.utc 20)

section Sample

local instance answersSha256 : Sha256 := Sha256.zeros

/-- What the two executions of the erasure answer. -/
def sampleAnswers : Option (List DataLifecycleBlocker × List DataLifecycleBlocker × Bool) :=
  match (empty.run [sampleWritten]).executeDataLifecycle sampleEraseCommand sampleBusyWork
      (.utc 20) with
  | .error _ => none
  | .ok (original, after) =>
      match after.executeDataLifecycle sampleEraseCommand sampleBusyWork (.utc 20) with
      | .error _ => none
      | .ok (answer, _) =>
          some (original.blockers, answer.blockers,
            (after.loadOperation sampleEraseCommand.val.idempotencyKey).isSome)

set_option maxRecDepth 10000 in
theorem sampleAnswers_eq : sampleAnswers = some ([.activeDeliveryWork], [], true) := by
  decide +kernel

/-- The blocked erasure is answered as replayed, with no blocker. -/
theorem sampleBlockedErase_untold :
    ¬ LifecycleReported [sampleWritten, sampleBlockedErase, sampleBlockedErase] := by
  intro reported
  have answers := sampleAnswers_eq
  rw [sampleAnswers] at answers
  split at answers
  · cases answers
  · rename_i original after run
    split at answers
    · cases answers
    · rename_i answer final replayed
      simp only [Option.some.injEq, Prod.mk.injEq] at answers
      obtain ⟨blocked, silent, known⟩ := answers
      have records : (empty.run [sampleWritten]).Records sampleEraseCommand sampleBusyWork
          (.utc 20) original after := ⟨run, rfl, known⟩
      obtain ⟨told, again, _, _, _, _, tells⟩ := reported.replays [sampleWritten]
        sampleEraseCommand sampleBusyWork (.utc 20) [] sampleEraseCommand sampleBusyWork (.utc 20)
        [] rfl original after records rfl rfl
      have same : after.run [] = after := rfl
      rw [same, replayed] at again
      cases again
      rw [silent, blocked] at tells
      cases tells

end Sample

end LifecycleStore

end LotusIdea

import LotusIdea.Postgres.ErasedVisibility

/-!
# The lifecycle machine

Runs of lifecycle commands on the control of one candidate.  A command that is
evaluated has one of four effects on the control or none, and each effect is a
control that passes its own checks again.  What a run can do to the control follows
from the four effects, and the control that is stored for a candidate goes through
such a run.
-/

set_option autoImplicit false

namespace LotusIdea

/-! ## Effects -/

namespace DataLifecycleControlFields

section
variable (control : DataLifecycleControlFields) (command : DataLifecycleCommand)
  (evaluatedAtUtc : DateTime)

def underHold : DataLifecycleControlFields :=
  { control with
    state := .held
    version := control.version + 1
    updatedAtUtc := evaluatedAtUtc
    heldFromState := some control.state
    holdAuthorityRef := some command.val.authorityRef
    holdChangeReference := some command.val.changeReference
    heldAtUtc := some evaluatedAtUtc }

def releasedTo (former : DataLifecycleState) : DataLifecycleControlFields :=
  { control with
    state := former
    version := control.version + 1
    updatedAtUtc := evaluatedAtUtc
    heldFromState := none
    holdAuthorityRef := none
    holdChangeReference := none
    heldAtUtc := none }

def afterErasure : DataLifecycleControlFields :=
  { control with
    state := .erased
    version := control.version + 1
    updatedAtUtc := evaluatedAtUtc
    erasedAtUtc := some evaluatedAtUtc }

def afterPurge : DataLifecycleControlFields :=
  { control with
    state := .purged
    version := control.version + 1
    updatedAtUtc := evaluatedAtUtc
    purgedAtUtc := some evaluatedAtUtc }

end

/-- The checks of a control in three groups. -/
theorem checks_pass_iff {c : DataLifecycleControlFields} :
    firstFailure c.checks = none ↔
      (firstFailure
        [requireSourceSafeReference c.candidateId "candidate_id",
         requireSourceSafeReference c.tenantId "tenant_id",
         requireSourceSafeReference c.policyRef "policy_ref",
         requireProviderUtc c.retentionExpiresAtUtc "retention_expires_at_utc",
         requireProviderUtc c.updatedAtUtc "updated_at_utc",
         (decide (c.version ≤ 0), PyError.valueError "version must be positive")] = none ∧
      firstFailure c.holdChecks = none) ∧ firstFailure c.terminalChecks = none := by
  rw [checks, firstFailure_append, firstFailure_append]

/-- A control that is not held carries no hold metadata. -/
theorem holdChecks_free {c : DataLifecycleControlFields} (free : c.state ≠ .held) :
    firstFailure c.holdChecks = none ↔
      c.heldFromState = none ∧ c.holdAuthorityRef = none ∧ c.holdChangeReference = none ∧
        c.heldAtUtc = none := by
  simp [holdChecks, free, and_assoc]

theorem optionalUtc_passes {value : Option DateTime} {fieldName : String} :
    firstFailure (optionalUtc value fieldName) = none ↔ ∀ t ∈ value, t.isUtc = true := by
  cases value <;> simp [optionalUtc, requireProviderUtc]

/-- The time of the erasure is there exactly on tombstones, and the time of the purge
exactly on purged controls. -/
theorem terminalChecks_pass_iff {c : DataLifecycleControlFields} :
    firstFailure c.terminalChecks = none ↔
      (∀ t ∈ c.erasedAtUtc, t.isUtc = true) ∧ (∀ t ∈ c.purgedAtUtc, t.isUtc = true) ∧
      c.erasedAtUtc.isSome = isTombstone c.effectiveState ∧
      c.purgedAtUtc.isSome = decide (c.effectiveState = some .purged) ∧
      ∀ digest ∈ c.tombstoneSha256, isSha256Hex digest = true := by
  have digests : firstFailure (c.tombstoneSha256.elim [] fun digest =>
      [requireSha256Hex digest "tombstone_sha256"]) = none ↔
      ∀ digest ∈ c.tombstoneSha256, isSha256Hex digest = true := by
    cases c.tombstoneSha256 <;> simp [requireSha256Hex]
  simp only [terminalChecks, firstFailure_append, optionalUtc_passes, digests]
  generalize c.effectiveState = effective
  by_cases purged : effective = some .purged
  · cases c.erasedAtUtc <;> cases c.purgedAtUtc <;> simp [purged, isTombstone, and_assoc]
  · by_cases erased : effective = some .erased
    · cases c.erasedAtUtc <;> cases c.purgedAtUtc <;> simp [erased, isTombstone]
    · cases c.erasedAtUtc <;> cases c.purgedAtUtc <;> simp [purged, erased, isTombstone]

/-- Releasing a control from its hold leaves it as it was before. -/
theorem underHold_releasedTo {control : DataLifecycleControlFields}
    (valid : firstFailure control.checks = none) (free : control.state ≠ .held)
    (command : DataLifecycleCommand) (heldAt releasedAt : DateTime) :
    (control.underHold command heldAt).releasedTo releasedAt control.state =
      { control with
        version := control.version + 1 + 1
        updatedAtUtc := releasedAt } := by
  obtain ⟨⟨_, hold⟩, _⟩ := checks_pass_iff.mp valid
  obtain ⟨noState, noAuthority, noChange, noTime⟩ := (holdChecks_free free).mp hold
  cases control
  simp only at noState noAuthority noChange noTime
  subst noState noAuthority noChange noTime
  rfl

/-- A control whose other fields change may be moved on at a UTC time. -/
theorem head_moves {c moved : DataLifecycleControlFields} {evaluatedAtUtc : DateTime}
    (valid : firstFailure c.checks = none) (utc : evaluatedAtUtc.isUtc = true)
    (candidateId : moved.candidateId = c.candidateId) (tenantId : moved.tenantId = c.tenantId)
    (policyRef : moved.policyRef = c.policyRef)
    (retention : moved.retentionExpiresAtUtc = c.retentionExpiresAtUtc)
    (updated : moved.updatedAtUtc = evaluatedAtUtc) (version : moved.version = c.version + 1)
    (hold : firstFailure moved.holdChecks = none)
    (terminal : firstFailure moved.terminalChecks = none) :
    firstFailure moved.checks = none := by
  obtain ⟨⟨head, _⟩, _⟩ := checks_pass_iff.mp valid
  refine checks_pass_iff.mpr ⟨⟨?_, hold⟩, terminal⟩
  simp only [firstFailure_cons, firstFailure_nil, and_true] at head ⊢
  obtain ⟨candidate, tenant, policy, expires, _, positive⟩ := head
  have further : decide (moved.version ≤ 0) = false := by
    simp only [decide_eq_false_iff_not] at positive ⊢
    omega
  rw [candidateId, tenantId, policyRef, retention, updated]
  refine ⟨candidate, tenant, policy, expires, ?_, further⟩
  simp [requireProviderUtc, utc]

end DataLifecycleControlFields

open DataLifecycleControlFields

/-- What an admitted command may make of the control, and whether it redacts. -/
inductive LifecycleEffect (command : DataLifecycleCommand)
    (context : DataLifecycleCandidateContext) (evaluatedAtUtc : DateTime)
    (control : DataLifecycleControlFields) : DataLifecycleControlFields → Bool → Prop where
  | hold (asked : command.val.action = .applyHold) (free : control.state ≠ .held) :
      LifecycleEffect command context evaluatedAtUtc control
        (control.underHold command evaluatedAtUtc) false
  | release (asked : command.val.action = .releaseHold) (under : control.state = .held)
      (former : DataLifecycleState) (before : control.heldFromState = some former) :
      LifecycleEffect command context evaluatedAtUtc control
        (control.releasedTo evaluatedAtUtc former) false
  | erase (asked : command.val.action = .erase) (living : control.state = .active)
      (idle : hasActiveDelivery context = false) :
      LifecycleEffect command context evaluatedAtUtc control
        (control.afterErasure evaluatedAtUtc) true
  | purge (asked : command.val.action = .purge) (erased : control.state = .erased)
      (expired : ¬ evaluatedAtUtc < control.retentionExpiresAtUtc)
      (idle : hasActiveDelivery context = false) :
      LifecycleEffect command context evaluatedAtUtc control
        (control.afterPurge evaluatedAtUtc) false

section
variable {command : DataLifecycleCommand} {context : DataLifecycleCandidateContext}
  {evaluatedAtUtc : DateTime}

/-- An effect on a valid control is a valid control. -/
theorem LifecycleEffect.valid {control projected : DataLifecycleControlFields} {redact : Bool}
    (effect : LifecycleEffect command context evaluatedAtUtc control projected redact)
    (valid : firstFailure control.checks = none) (utc : evaluatedAtUtc.isUtc = true) :
    firstFailure projected.checks = none := by
  obtain ⟨⟨_, hold⟩, terminal⟩ := checks_pass_iff.mp valid
  cases effect with
  | hold asked free =>
      have named := command.valid
      simp only [DataLifecycleCommandFields.checks, firstFailure_append, firstFailure_cons,
        firstFailure_nil, and_true] at named
      obtain ⟨⟨⟨_, _, _, authority, _, change, _⟩, _⟩, _⟩ := named
      refine head_moves valid utc rfl rfl rfl rfl rfl rfl ?_ ?_
      · simp only [underHold, holdChecks, optionalUtc, if_true, firstFailure_append,
          firstFailure_cons, firstFailure_nil, Option.elim_some, requireProviderUtc, utc]
        exact ⟨⟨rfl, by simp [free], authority, change, trivial⟩, rfl, trivial⟩
      · simpa [underHold, terminalChecks, effectiveState, free] using terminal
  | release asked under former before =>
      have free : former ≠ .held := by
        intro again
        simp only [holdChecks, under, if_true, firstFailure_append, firstFailure_cons] at hold
        simp [before, again] at hold
      refine head_moves valid utc rfl rfl rfl rfl rfl rfl ?_ ?_
      · exact (holdChecks_free free).mpr ⟨rfl, rfl, rfl, rfl⟩
      · simpa [releasedTo, terminalChecks, effectiveState, free, under, before] using terminal
  | erase asked living idle =>
      have free : control.state ≠ .held := by simp [living]
      have bare := (holdChecks_free free).mp hold
      refine head_moves valid utc rfl rfl rfl rfl rfl rfl ?_ ?_
      · exact (holdChecks_free (by simp [afterErasure])).mpr bare
      · obtain ⟨_, purgedUtc, _, purgedThere, digest⟩ := terminalChecks_pass_iff.mp terminal
        refine terminalChecks_pass_iff.mpr ⟨?_, purgedUtc, ?_, ?_, digest⟩
        · rintro t ⟨⟩
          exact utc
        · simp [afterErasure, effectiveState, isTombstone]
        · simpa [afterErasure, effectiveState, living] using purgedThere
  | purge asked erased expired idle =>
      have free : control.state ≠ .held := by simp [erased]
      have bare := (holdChecks_free free).mp hold
      refine head_moves valid utc rfl rfl rfl rfl rfl rfl ?_ ?_
      · exact (holdChecks_free (by simp [afterPurge])).mpr bare
      · obtain ⟨erasedUtc, _, erasedThere, _, digest⟩ := terminalChecks_pass_iff.mp terminal
        refine terminalChecks_pass_iff.mpr ⟨erasedUtc, ?_, ?_, ?_, digest⟩
        · rintro t ⟨⟩
          exact utc
        · simpa [afterPurge, effectiveState, isTombstone, erased] using erasedThere
        · simp [afterPurge, effectiveState]

variable {control : DataLifecycleControl}

theorem lifecycleApproved_eq (control : DataLifecycleControl)
    {projected : DataLifecycleControlFields} {redact purge : Bool}
    (valid : firstFailure projected.checks = none) :
    lifecycleApproved command control projected redact purge = .ok
      { decision := if command.val.dryRun then .preview else .applied
        currentControl := some control
        projectedControl := some ⟨projected, valid⟩
        blockers := []
        redactionRequired := redact
        purgeRequired := purge } := by
  rw [lifecycleApproved, Checked.make_of_valid valid]
  rfl

/-- A command with an effect is approved, and its projected control is that effect. -/
theorem evaluateAction_of_effect {projected : DataLifecycleControlFields} {redact : Bool}
    (effect : LifecycleEffect command context evaluatedAtUtc control.val projected redact)
    (utc : evaluatedAtUtc.isUtc = true) :
    ∃ made : DataLifecycleControl, ∃ purge, made.val = projected ∧
      evaluateAction command context control evaluatedAtUtc = .ok
        { decision := if command.val.dryRun then .preview else .applied
          currentControl := some control
          projectedControl := some made
          blockers := []
          redactionRequired := redact
          purgeRequired := purge } := by
  have valid := effect.valid control.valid utc
  cases effect with
  | hold asked free =>
      refine ⟨⟨_, valid⟩, false, rfl, ?_⟩
      rw [← lifecycleApproved_eq control valid]
      simp only [evaluateAction, asked, evaluateHold, if_neg free]
      rfl
  | release asked under former before =>
      refine ⟨⟨_, valid⟩, false, rfl, ?_⟩
      rw [← lifecycleApproved_eq control valid]
      simp only [evaluateAction, asked, evaluateRelease, before, under, ne_eq, not_true_eq_false,
        if_false]
      rfl
  | erase asked living idle =>
      refine ⟨⟨_, valid⟩, false, rfl, ?_⟩
      rw [← lifecycleApproved_eq control valid]
      simp only [evaluateAction, asked, evaluateErase, living, idle, reduceCtorEq, or_self,
        Bool.false_eq_true, if_false]
      rfl
  | purge asked erased expired idle =>
      have unblocked : purgeBlockers context control evaluatedAtUtc = [] := by
        simp [purgeBlockers, erased, expired, idle]
      refine ⟨⟨_, valid⟩, true, rfl, ?_⟩
      rw [← lifecycleApproved_eq control valid]
      simp only [evaluateAction, asked, evaluatePurge, erased, unblocked, reduceCtorEq,
        List.isEmpty_nil, Bool.not_true, Bool.false_eq_true, if_false]
      rfl

/-- A command without an effect is blocked, by some blocker, or answered from the state
that is there. -/
theorem evaluateAction_of_none
    (ineffective : ∀ projected redact,
      ¬ LifecycleEffect command context evaluatedAtUtc control.val projected redact) :
    ∃ e, evaluateAction command context control evaluatedAtUtc = .ok e ∧
      (e.decision = .blocked ∧ e.blockers ≠ [] ∨ e.decision = .replayed ∧ e.blockers = []) := by
  cases asked : command.val.action with
  | applyHold =>
      have held : control.val.state = .held := by
        by_contra free
        exact ineffective _ _ (.hold asked free)
      simp only [evaluateAction, asked, evaluateHold, if_pos held]
      exact ⟨_, rfl, .inl ⟨rfl, List.cons_ne_nil _ _⟩⟩
  | releaseHold =>
      cases before : control.val.heldFromState with
      | none =>
          simp only [evaluateAction, asked, evaluateRelease, before]
          exact ⟨_, rfl, .inl ⟨rfl, List.cons_ne_nil _ _⟩⟩
      | some former =>
          have free : control.val.state ≠ .held := by
            intro under
            exact ineffective _ _ (.release asked under former before)
          simp only [evaluateAction, asked, evaluateRelease, before, if_pos free]
          exact ⟨_, rfl, .inl ⟨rfl, List.cons_ne_nil _ _⟩⟩
  | erase =>
      simp only [evaluateAction, asked, evaluateErase]
      split
      · exact ⟨_, rfl, .inl ⟨rfl, List.cons_ne_nil _ _⟩⟩
      · rename_i free
        split
        · exact ⟨_, rfl, .inr ⟨rfl, rfl⟩⟩
        · rename_i standing
          split
          · exact ⟨_, rfl, .inl ⟨rfl, List.cons_ne_nil _ _⟩⟩
          · rename_i idle
            have living : control.val.state = .active := by
              cases state : control.val.state <;> simp_all
            exact absurd (.erase asked living (by simpa using idle)) (ineffective _ _)
  | purge =>
      simp only [evaluateAction, asked, evaluatePurge]
      split
      · exact ⟨_, rfl, .inl ⟨rfl, List.cons_ne_nil _ _⟩⟩
      · split
        · exact ⟨_, rfl, .inr ⟨rfl, rfl⟩⟩
        · split
          · rename_i some_blocker
            exact ⟨_, rfl, .inl ⟨rfl, by simpa [lifecycleBlocked] using some_blocker⟩⟩
          · rename_i unblocked
            simp only [purgeBlockers, Bool.not_eq_true, Bool.not_eq_false', List.isEmpty_iff,
              List.append_eq_nil_iff, ite_eq_right_iff, reduceCtorEq, imp_false, not_not]
              at unblocked
            obtain ⟨⟨erased, expired⟩, idle⟩ := unblocked
            exact absurd (.purge asked erased expired (by simpa using idle)) (ineffective _ _)

/-- A command is applied exactly when nothing keeps it from being evaluated, it is no
dry run and it has an effect. -/
theorem evaluateDataLifecycle_applied_iff :
    (∃ e, evaluateDataLifecycle command context evaluatedAtUtc = .ok e ∧ e.decision = .applied) ↔
      ∃ control, LifecycleAdmitted command context evaluatedAtUtc control ∧
        command.val.dryRun = false ∧ ∃ projected redact,
          LifecycleEffect command context evaluatedAtUtc control.val projected redact := by
  constructor
  · rintro ⟨e, run, applied⟩
    obtain ⟨control, _, admitted, wet, _⟩ := evaluateDataLifecycle_applied run applied
    refine ⟨control, admitted, wet, ?_⟩
    by_contra none
    have ineffective : ∀ projected redact,
        ¬ LifecycleEffect command context evaluatedAtUtc control.val projected redact :=
      fun projected redact effect => none ⟨projected, redact, effect⟩
    obtain ⟨other, evaluated, decided⟩ := evaluateAction_of_none ineffective
    rw [evaluateDataLifecycle_admitted admitted, evaluated] at run
    cases run
    rcases decided with ⟨blocked, _⟩ | ⟨replayed, _⟩
    · rw [blocked] at applied
      cases applied
    · rw [replayed] at applied
      cases applied
  · rintro ⟨control, admitted, wet, projected, redact, effect⟩
    obtain ⟨made, purge, _, approved⟩ := evaluateAction_of_effect effect admitted.utc
    refine ⟨_, (evaluateDataLifecycle_admitted admitted).trans approved, ?_⟩
    simp [wet]

/-- Beside a candidate that is not found, the blocked commands are those with blockers. -/
theorem evaluateDataLifecycle_blocked_iff {e : DataLifecycleEvaluation}
    (run : evaluateDataLifecycle command context evaluatedAtUtc = .ok e)
    (present : e.decision ≠ .notFound) : e.decision = .blocked ↔ e.blockers ≠ [] := by
  simp only [evaluateDataLifecycle] at run
  split at run
  · cases run
  · rename_i utc
    split at run
    · cases run
      exact absurd rfl present
    · split at run
      · cases run
      · split at run
        · rename_i uncontrolled
          cases run
          refine iff_of_true rfl ?_
          simp [lifecycleBlocked, commonBlockers, uncontrolled]
        · rename_i control _
          split at run
          · rename_i some_blocker
            cases run
            exact iff_of_true rfl (by simpa [lifecycleBlocked] using some_blocker)
          · by_cases effective : ∃ projected redact,
                LifecycleEffect command context evaluatedAtUtc control.val projected redact
            · obtain ⟨projected, redact, effect⟩ := effective
              obtain ⟨made, purge, _, approved⟩ :=
                evaluateAction_of_effect effect (by simpa using utc)
              rw [approved] at run
              cases run
              cases command.val.dryRun <;> simp
            · have ineffective : ∀ projected redact,
                  ¬ LifecycleEffect command context evaluatedAtUtc control.val projected redact :=
                fun projected redact effect => effective ⟨projected, redact, effect⟩
              obtain ⟨other, evaluated, decided⟩ := evaluateAction_of_none ineffective
              rw [evaluated] at run
              cases run
              rcases decided with ⟨blocked, some_blocker⟩ | ⟨replayed, none⟩
              · exact iff_of_true blocked some_blocker
              · simp [replayed, none]

/-- At a UTC time that is not before the request a command is always answered. -/
theorem evaluateDataLifecycle_returns (utc : evaluatedAtUtc.isUtc = true)
    (requested : ¬ evaluatedAtUtc < command.val.requestedAtUtc) :
    ∃ e, evaluateDataLifecycle command context evaluatedAtUtc = .ok e := by
  by_cases present : context.val.candidateExists = true
  · cases controlled : context.val.control with
    | none => simp [evaluateDataLifecycle, utc, present, requested, controlled]
    | some control =>
        by_cases unblocked : commonBlockers command context evaluatedAtUtc = []
        · have admitted : LifecycleAdmitted command context evaluatedAtUtc control :=
            ⟨utc, present, requested, controlled, unblocked⟩
          rw [evaluateDataLifecycle_admitted admitted]
          by_cases effective : ∃ projected redact,
              LifecycleEffect command context evaluatedAtUtc control.val projected redact
          · obtain ⟨projected, redact, effect⟩ := effective
            obtain ⟨made, purge, _, approved⟩ := evaluateAction_of_effect effect utc
            exact ⟨_, approved⟩
          · have ineffective : ∀ projected redact,
                ¬ LifecycleEffect command context evaluatedAtUtc control.val projected redact :=
              fun projected redact effect => effective ⟨projected, redact, effect⟩
            obtain ⟨e, evaluated, _⟩ := evaluateAction_of_none ineffective
            exact ⟨e, evaluated⟩
        · simp [evaluateDataLifecycle, utc, present, requested, controlled, unblocked]
  · simp [evaluateDataLifecycle, utc, present]

end

/-! ## The machine on one control -/

/-- The context of a command with the control that is stored. -/
def DataLifecycleCandidateContext.onControl (context : DataLifecycleCandidateContext)
    (control : DataLifecycleControl) : DataLifecycleCandidateContext :=
  ⟨{ context.val with control := some control }, context.valid⟩

/-- A command with what it finds beside the control when it is evaluated. -/
structure LifecycleRequest where
  command : DataLifecycleCommand
  context : DataLifecycleCandidateContext
  evaluatedAtUtc : DateTime

section
variable [Sha256]

/-- The control as it is stored: an erasure adds the digest of its tombstone. -/
def DataLifecycleControlFields.committed (projected : DataLifecycleControlFields)
    (command : DataLifecycleCommand) (redact : Bool) : DataLifecycleControlFields :=
  if redact then { projected with tombstoneSha256 := some (lifecycleTombstone command) }
  else projected

@[simp] theorem DataLifecycleControlFields.effectiveState_committed
    (projected : DataLifecycleControlFields) (command : DataLifecycleCommand) (redact : Bool) :
    (projected.committed command redact).effectiveState = projected.effectiveState := by
  cases redact <;> rfl

/-- The control that `_apply_evaluation` leaves stored. -/
def commitEvaluation (command : DataLifecycleCommand) (control : DataLifecycleControl)
    (evaluation : DataLifecycleEvaluation) : Except PyError DataLifecycleControl :=
  match evaluation.decision, evaluation.projectedControl with
  | .applied, some projected =>
      if evaluation.redactionRequired then
        Checked.make DataLifecycleControlFields.checks
          { projected.val with tombstoneSha256 := some (lifecycleTombstone command) }
      else .ok projected
  | _, _ => .ok control

namespace LifecycleRequest

/-- The decision about a request and the control after it. -/
def execute (control : DataLifecycleControl) (request : LifecycleRequest) :
    Except PyError (DataLifecycleDecision × DataLifecycleControl) := do
  let evaluation ← evaluateDataLifecycle request.command (request.context.onControl control)
    request.evaluatedAtUtc
  let committed ← commitEvaluation request.command control evaluation
  return (evaluation.decision, committed)

/-- A request that raises is rolled back. -/
def step (control : DataLifecycleControl) (request : LifecycleRequest) : DataLifecycleControl :=
  match request.execute control with
  | .ok (_, after) => after
  | .error _ => control

/-- The request asks for the action and is applied to the control. -/
def Applies (control : DataLifecycleControl) (request : LifecycleRequest)
    (action : DataLifecycleAction) : Prop :=
  request.command.val.action = action ∧ ∃ after, request.execute control = .ok (.applied, after)

def isApplied (control : DataLifecycleControl) (request : LifecycleRequest) : Bool :=
  match request.execute control with
  | .ok (.applied, _) => true
  | _ => false

/-- The number of requests of a run that are applied. -/
def appliedCount (control : DataLifecycleControl) : List LifecycleRequest → Nat
  | [] => 0
  | request :: rest =>
      (if isApplied control request then 1 else 0) + appliedCount (step control request) rest

/-- What an applied request makes of the control. -/
structure Effected (control : DataLifecycleControl) (request : LifecycleRequest)
    (after : DataLifecycleControl) : Prop where
  admitted : LifecycleAdmitted request.command (request.context.onControl control)
    request.evaluatedAtUtc control
  wet : request.command.val.dryRun = false
  effect : ∃ projected redact, LifecycleEffect request.command (request.context.onControl control)
    request.evaluatedAtUtc control.val projected redact ∧
    after.val = projected.committed request.command redact

end LifecycleRequest

theorem lifecycleTombstone_isSha256Hex (hex : Sha256.HexText) (sized : Sha256.Sized)
    (command : DataLifecycleCommand) : isSha256Hex (lifecycleTombstone command) = true := by
  rw [isSha256Hex, Bool.and_eq_true, decide_eq_true_eq]
  exact ⟨sized 64 _ (Nat.le_refl 64), hex 64 _⟩

/-- A tombstone digest keeps a control valid. -/
theorem committed_valid (hex : Sha256.HexText) (sized : Sha256.Sized)
    {control : DataLifecycleControlFields} (valid : firstFailure control.checks = none)
    (command : DataLifecycleCommand) (redact : Bool) :
    firstFailure (control.committed command redact).checks = none := by
  cases redact with
  | false => exact valid
  | true =>
      obtain ⟨⟨head, hold⟩, terminal⟩ := checks_pass_iff.mp valid
      refine checks_pass_iff.mpr ⟨⟨head, hold⟩, ?_⟩
      obtain ⟨erasedUtc, purgedUtc, erased, purged, _⟩ := terminalChecks_pass_iff.mp terminal
      refine terminalChecks_pass_iff.mpr ⟨erasedUtc, purgedUtc, erased, purged, ?_⟩
      rintro other ⟨⟩
      exact lifecycleTombstone_isSha256Hex hex sized command

namespace LifecycleRequest

/-- A request is applied with one of the effects, or answered without one, or it
comes at a time at which it is not evaluated. -/
theorem execute_cases (hex : Sha256.HexText) (sized : Sha256.Sized)
    (control : DataLifecycleControl) (request : LifecycleRequest) :
    (∃ after, request.execute control = .ok (.applied, after) ∧ Effected control request after) ∨
    (∃ decision, decision ≠ .applied ∧ request.execute control = .ok (decision, control)) ∨
    (∃ error, request.execute control = .error error ∧
      (request.evaluatedAtUtc.isUtc = false ∨
        request.evaluatedAtUtc < request.command.val.requestedAtUtc)) := by
  cases evaluated : evaluateDataLifecycle request.command (request.context.onControl control)
      request.evaluatedAtUtc with
  | error error =>
      refine .inr (.inr ⟨error, by simp [execute, evaluated, bind, Except.bind], ?_⟩)
      by_contra timely
      rw [not_or, Bool.not_eq_false] at timely
      obtain ⟨e, returned⟩ := evaluateDataLifecycle_returns timely.1 timely.2
      rw [returned] at evaluated
      cases evaluated
  | ok e =>
      by_cases applied : e.decision = .applied
      · left
        obtain ⟨found, admitted, wet, projected, redact, effect⟩ :=
          evaluateDataLifecycle_applied_iff.mp ⟨e, evaluated, applied⟩
        have same : found = control := by
          have stored := admitted.controlled
          simp only [DataLifecycleCandidateContext.onControl] at stored
          cases stored
          rfl
        subst same
        obtain ⟨made, purge, value, approved⟩ := evaluateAction_of_effect effect admitted.utc
        rw [evaluateDataLifecycle_admitted admitted, approved] at evaluated
        cases evaluated
        have valid := committed_valid hex sized made.valid request.command redact
        refine ⟨⟨_, valid⟩, ?_, admitted, wet, projected, redact, effect, by rw [← value]⟩
        rw [execute, evaluateDataLifecycle_admitted admitted, approved]
        cases redact with
        | false =>
            simp [commitEvaluation, wet, bind, Except.bind, pure, Except.pure,
              DataLifecycleControlFields.committed]
        | true =>
            simp only [DataLifecycleControlFields.committed, if_true] at valid ⊢
            simp [commitEvaluation, wet, bind, Except.bind, pure, Except.pure,
              Checked.make_of_valid valid]
      · refine .inr (.inl ⟨e.decision, applied, ?_⟩)
        have kept : commitEvaluation request.command control e = .ok control := by
          rw [commitEvaluation]
          split
          · exact absurd ‹_› applied
          · rfl
        simp [execute, evaluated, kept, bind, Except.bind, pure, Except.pure]

/-! ## Safety -/

/-- The moves of the state under any hold. -/
inductive EffectiveMove (state : Option DataLifecycleState) : Option DataLifecycleState → Prop where
  | stays : EffectiveMove state state
  | erased (living : state = some .active) : EffectiveMove state (some .erased)
  | purged (erased : state = some .erased) : EffectiveMove state (some .purged)

/-- What one request may do to a control. -/
structure SafeStep (control : DataLifecycleControl) (request : LifecycleRequest) : Prop where
  moves : EffectiveMove control.effectiveState (step control request).effectiveState
  destroys : (step control request).effectiveState ≠ control.effectiveState →
    request.Applies control .erase ∨ request.Applies control .purge
  erases : request.Applies control .erase →
    control.val.state = .active ∧ hasActiveDelivery request.context = false
  purges : request.Applies control .purge →
    control.val.state = .erased ∧ hasActiveDelivery request.context = false ∧
      control.val.retentionExpiresAtUtc ≤ request.evaluatedAtUtc
  dual : ∀ action, action ≠ .applyHold → request.Applies control action →
    ∃ approver, request.command.val.approverSubject = some approver ∧
      approver ≠ request.command.val.actorSubject
  counted : ∀ after, request.execute control = .ok (.applied, after) →
    after.val.version = control.val.version + 1
  unchanged : ∀ decision after, request.execute control = .ok (decision, after) →
    decision ≠ .applied → after = control
  previewed : request.command.val.dryRun = true →
    ∀ after, request.execute control ≠ .ok (.applied, after)
  returns : request.evaluatedAtUtc.isUtc = true →
    ¬ request.evaluatedAtUtc < request.command.val.requestedAtUtc →
    ∃ answer, request.execute control = .ok answer

/-- What an applied request is applied to. -/
theorem Effected.action {control after : DataLifecycleControl} {request : LifecycleRequest}
    (effected : Effected control request after) :
    (request.command.val.action = .erase → control.val.state = .active ∧
      hasActiveDelivery request.context = false) ∧
    (request.command.val.action = .purge → control.val.state = .erased ∧
      hasActiveDelivery request.context = false ∧
      control.val.retentionExpiresAtUtc ≤ request.evaluatedAtUtc) ∧
    after.val.version = control.val.version + 1 := by
  obtain ⟨projected, redact, effect, value⟩ := effected.effect
  rw [value]
  cases effect with
  | hold asked free => exact ⟨by rw [asked]; nofun, by rw [asked]; nofun, rfl⟩
  | release asked under former before => exact ⟨by rw [asked]; nofun, by rw [asked]; nofun, rfl⟩
  | erase asked living idle => exact ⟨fun _ => ⟨living, idle⟩, by rw [asked]; nofun, rfl⟩
  | purge asked erased expired idle =>
      refine ⟨by rw [asked]; nofun, fun _ => ⟨erased, idle, ?_⟩, rfl⟩
      simp only [DateTime.lt_def, DateTime.le_def] at expired ⊢
      omega

/-- The state under any hold is kept, or moved by an erasure or a purge. -/
theorem Effected.moves {control after : DataLifecycleControl} {request : LifecycleRequest}
    (effected : Effected control request after) :
    EffectiveMove control.effectiveState after.effectiveState ∧
      (after.effectiveState ≠ control.effectiveState →
        request.command.val.action = .erase ∨ request.command.val.action = .purge) := by
  obtain ⟨projected, redact, effect, value⟩ := effected.effect
  have stays (same : after.effectiveState = control.effectiveState) :
      EffectiveMove control.effectiveState after.effectiveState := by
    rw [same]
    exact .stays
  cases effect with
  | hold asked free =>
      have same : after.effectiveState = control.effectiveState := by
        rw [DataLifecycleControl.effectiveState, value, effectiveState_committed]
        simp [effectiveState, underHold, DataLifecycleControl.effectiveState, free]
      exact ⟨stays same, fun other => absurd same other⟩
  | release asked under former before =>
      have free : former ≠ .held := by
        intro again
        obtain ⟨⟨_, hold⟩, _⟩ := checks_pass_iff.mp control.valid
        simp only [holdChecks, under, if_true, firstFailure_append, firstFailure_cons] at hold
        simp [before, again] at hold
      have same : after.effectiveState = control.effectiveState := by
        rw [DataLifecycleControl.effectiveState, value, effectiveState_committed]
        simp [effectiveState, releasedTo, DataLifecycleControl.effectiveState, free, under, before]
      exact ⟨stays same, fun other => absurd same other⟩
  | erase asked living idle =>
      have now : after.effectiveState = some .erased := by
        rw [DataLifecycleControl.effectiveState, value, effectiveState_committed]
        simp [effectiveState, afterErasure]
      rw [now]
      refine ⟨.erased ?_, fun _ => .inl asked⟩
      simp [DataLifecycleControl.effectiveState, effectiveState, living]
  | purge asked erased expired idle =>
      have now : after.effectiveState = some .purged := by
        rw [DataLifecycleControl.effectiveState, value, effectiveState_committed]
        simp [effectiveState, afterPurge]
      rw [now]
      refine ⟨.purged ?_, fun _ => .inr asked⟩
      simp [DataLifecycleControl.effectiveState, effectiveState, erased]

omit [Sha256] in
/-- An applied command other than a hold has an approver beside its actor. -/
theorem approved_of_admitted {command : DataLifecycleCommand}
    {context : DataLifecycleCandidateContext} {evaluatedAtUtc : DateTime}
    {control : DataLifecycleControl}
    (admitted : LifecycleAdmitted command context evaluatedAtUtc control)
    (wet : command.val.dryRun = false) (other : command.val.action ≠ .applyHold) :
    ∃ approver, command.val.approverSubject = some approver ∧
      approver ≠ command.val.actorSubject := by
  have dual : requiresDualAuthorization command.val.action = true := by
    cases action : command.val.action with
    | applyHold => exact absurd action other
    | releaseHold | erase | purge => rfl
  have unblocked := admitted.unblocked
  simp only [commonBlockers, List.append_eq_nil_iff] at unblocked
  have approved := unblocked.2
  cases given : command.val.approverSubject with
  | none => simp [wet, dual, given] at approved
  | some approver =>
      refine ⟨approver, rfl, ?_⟩
      rintro rfl
      simp [wet, dual, given] at approved

/-- A request that is not applied is safe when it keeps the control. -/
theorem safeStep_of_unapplied {control : DataLifecycleControl} {request : LifecycleRequest}
    (notApplied : ∀ after, request.execute control ≠ .ok (.applied, after))
    (kept : ∀ decision after, request.execute control = .ok (decision, after) → after = control)
    (returns : request.evaluatedAtUtc.isUtc = true →
      ¬ request.evaluatedAtUtc < request.command.val.requestedAtUtc →
      ∃ answer, request.execute control = .ok answer) : SafeStep control request := by
  have next : step control request = control := by
    rw [step]
    split
    · rename_i decision after run
      exact kept decision after run
    · rfl
  constructor
  · rw [next]
    exact .stays
  · rw [next]
    exact fun changed => absurd rfl changed
  · exact fun ⟨_, after, applied⟩ => absurd applied (notApplied after)
  · exact fun ⟨_, after, applied⟩ => absurd applied (notApplied after)
  · exact fun _ _ ⟨_, after, applied⟩ => absurd applied (notApplied after)
  · exact fun after applied => absurd applied (notApplied after)
  · exact fun decision after run _ => kept decision after run
  · exact fun _ => notApplied
  · exact returns

theorem safeStep (hex : Sha256.HexText) (sized : Sha256.Sized) (control : DataLifecycleControl)
    (request : LifecycleRequest) : SafeStep control request := by
  rcases execute_cases hex sized control request with
    ⟨after, run, effected⟩ | ⟨decision, other, run⟩ | ⟨error, run, untimely⟩
  · have next : step control request = after := by rw [step, run]
    have only : ∀ decision later, request.execute control = .ok (decision, later) →
        decision = .applied ∧ later = after := by
      intro decision later again
      rw [run] at again
      cases again
      exact ⟨rfl, rfl⟩
    obtain ⟨erases, purges, version⟩ := effected.action
    obtain ⟨moves, destroys⟩ := effected.moves
    constructor
    · rw [next]
      exact moves
    · rw [next]
      intro changed
      rcases destroys changed with erase | purge
      · exact .inl ⟨erase, after, run⟩
      · exact .inr ⟨purge, after, run⟩
    · exact fun applies => erases applies.1
    · exact fun applies => purges applies.1
    · intro action nonHold applies
      exact approved_of_admitted effected.admitted effected.wet (by rw [applies.1]; exact nonHold)
    · intro later again
      rw [(only _ _ again).2]
      exact version
    · exact fun decision later again other => absurd (only _ _ again).1 other
    · intro dry
      rw [effected.wet] at dry
      cases dry
    · exact fun _ _ => ⟨_, run⟩
  · refine safeStep_of_unapplied ?_ ?_ fun _ _ => ⟨_, run⟩
    · intro after applied
      rw [run] at applied
      cases applied
      exact other rfl
    · intro decision' after again
      rw [run] at again
      cases again
      rfl
  · refine safeStep_of_unapplied ?_ ?_ ?_
    · intro after applied
      rw [run] at applied
      cases applied
    · intro decision after returned
      rw [run] at returned
      cases returned
    · intro utc requested
      rcases untimely with naive | early
      · rw [naive] at utc
        cases utc
      · exact absurd early requested

/-- The version counts the applied requests. -/
theorem run_version (hex : Sha256.HexText) (sized : Sha256.Sized)
    (start : DataLifecycleControl) (requests : List LifecycleRequest) :
    (Runs.run step start requests).val.version =
      start.val.version + appliedCount start requests := by
  induction requests generalizing start with
  | nil => simp [appliedCount]
  | cons request rest ih =>
      rw [Runs.run_cons, ih, appliedCount]
      have safe := safeStep hex sized start request
      cases run : request.execute start with
      | error error => simp [step, isApplied, run]
      | ok answer =>
          obtain ⟨decision, after⟩ := answer
          by_cases applied : decision = .applied
          · subst applied
            have version := safe.counted after run
            simp only [step, isApplied, run, version, if_true]
            omega
          · have kept := safe.unchanged decision after run applied
            have uncounted : isApplied start request = false := by
              cases decision with
              | applied => exact absurd rfl applied
              | preview | replayed | blocked | conflict | notFound => simp [isApplied, run]
            simp [step, run, kept, uncounted]

/-- Under a hold only a release is applied. -/
theorem step_of_held (hex : Sha256.HexText) (sized : Sha256.Sized)
    {control : DataLifecycleControl} {request : LifecycleRequest}
    (under : control.val.state = .held) (spared : ¬ request.Applies control .releaseHold) :
    step control request = control := by
  rcases execute_cases hex sized control request with
    ⟨after, run, effected⟩ | ⟨decision, other, run⟩ | ⟨error, run, untimely⟩
  · obtain ⟨projected, redact, effect, value⟩ := effected.effect
    cases effect with
    | hold asked free => exact absurd under free
    | release asked _ former before => exact absurd ⟨asked, after, run⟩ spared
    | erase asked living idle =>
        rw [under] at living
        cases living
    | purge asked erased expired idle =>
        rw [under] at erased
        cases erased
  · rw [step, run]
  · rw [step, run]

theorem run_of_held (hex : Sha256.HexText) (sized : Sha256.Sized)
    {control : DataLifecycleControl} {requests : List LifecycleRequest}
    (under : control.val.state = .held)
    (spared : Runs.Throughout step (fun c r => ¬ r.Applies c .releaseHold) control requests) :
    Runs.run step control requests = control := by
  induction requests with
  | nil => rfl
  | cons request rest ih =>
      obtain ⟨first, later⟩ := spared
      have kept := step_of_held hex sized under first
      rw [kept] at later
      rw [Runs.run_cons, kept]
      exact ih later

theorem Applies.effected (hex : Sha256.HexText) (sized : Sha256.Sized)
    {control : DataLifecycleControl} {request : LifecycleRequest} {action : DataLifecycleAction}
    (applies : request.Applies control action) :
    request.command.val.action = action ∧ Effected control request (step control request) := by
  obtain ⟨asked, answer, applied⟩ := applies
  rcases execute_cases hex sized control request with
    ⟨after, run, effected⟩ | ⟨decision, other, run⟩ | ⟨error, run, untimely⟩
  · rw [step, run]
    exact ⟨asked, effected⟩
  · rw [run] at applied
    cases applied
    exact absurd rfl other
  · rw [run] at applied
    cases applied

theorem hold_applied (hex : Sha256.HexText) (sized : Sha256.Sized)
    {control : DataLifecycleControl} {request : LifecycleRequest}
    (applies : request.Applies control .applyHold) :
    (step control request).val =
      control.val.underHold request.command request.evaluatedAtUtc ∧
    control.val.state ≠ .held := by
  obtain ⟨asked, effected⟩ := applies.effected hex sized
  obtain ⟨projected, redact, effect, value⟩ := effected.effect
  cases effect with
  | hold asked free => exact ⟨value, free⟩
  | release other | erase other | purge other =>
      rw [asked] at other
      cases other

theorem release_applied (hex : Sha256.HexText) (sized : Sha256.Sized)
    {control : DataLifecycleControl} {request : LifecycleRequest}
    (applies : request.Applies control .releaseHold) :
    ∃ former, control.val.heldFromState = some former ∧
      (step control request).val = control.val.releasedTo request.evaluatedAtUtc former := by
  obtain ⟨asked, effected⟩ := applies.effected hex sized
  obtain ⟨projected, redact, effect, value⟩ := effected.effect
  cases effect with
  | release asked under former before => exact ⟨former, before, value⟩
  | hold other | erase other | purge other =>
      rw [asked] at other
      cases other

/-- The release that follows a hold in a run leaves the control that was held, with two
more versions and the time of the release. -/
def HoldsRestored (start : DataLifecycleControl) (requests : List LifecycleRequest) : Prop :=
  ∀ first hold between release later,
    requests = first ++ hold :: (between ++ release :: later) →
    let former := Runs.run step start first
    let held := step former hold
    let still := Runs.run step held between
    hold.Applies former .applyHold →
    Runs.Throughout step (fun c r => ¬ r.Applies c .releaseHold) held between →
    release.Applies still .releaseHold →
    (step still release).val =
      { former.val with
        version := former.val.version + 1 + 1
        updatedAtUtc := release.evaluatedAtUtc }

theorem holdsRestored (hex : Sha256.HexText) (sized : Sha256.Sized)
    (start : DataLifecycleControl) (requests : List LifecycleRequest) :
    HoldsRestored start requests := by
  intro first hold between release later _ former held still holds spared releases
  obtain ⟨heldIs, free⟩ := hold_applied hex sized holds
  have under : held.val.state = .held := by rw [heldIs]; rfl
  have same : still = held := run_of_held hex sized under spared
  obtain ⟨state, before, released⟩ := release_applied hex sized releases
  rw [same, heldIs] at before
  cases before
  rw [released, same, heldIs]
  exact underHold_releasedTo former.valid free _ _ _

/-- Every step of a run is safe, the version counts what was applied, and releases
restore what was held. -/
theorem lifecycleRuns_safe (hex : Sha256.HexText) (sized : Sha256.Sized)
    (start : DataLifecycleControl) (requests : List LifecycleRequest) :
    Runs.Throughout step SafeStep start requests ∧
    (Runs.run step start requests).val.version =
      start.val.version + appliedCount start requests ∧
    HoldsRestored start requests :=
  ⟨Runs.throughout_of_forall (fun request _ control => safeStep hex sized control request) start,
    run_version hex sized start requests, holdsRestored hex sized start requests⟩

end LifecycleRequest

end

/-! ### A hold and its release -/

def sampleControl : DataLifecycleControl where
  val :=
    { candidateId := "idea-1", tenantId := "tenant-a", policyRef := regulatedAdvisoryPolicyRef
      state := .active, retentionExpiresAtUtc := .utc 1000, version := 1
      updatedAtUtc := .utc 10 }
  valid := by decide +kernel

def sampleReleaseCommand : DataLifecycleCommand where
  val :=
    { candidateId := "idea-1", tenantId := "tenant-a", action := .releaseHold
      actorSubject := "operator-1"
      authorityRef := "bank-legal-and-records-governance:decision-3"
      reason := "hold-lifted", changeReference := "change-3", idempotencyKey := "release-1"
      requestFingerprint := "fingerprint-3", correlationId := "correlation-3"
      traceId := "trace-3", requestedAtUtc := .utc 40, dryRun := false
      approverSubject := some "approver-1" }
  valid := by decide +kernel

def sampleContext : DataLifecycleCandidateContext where
  val :=
    { candidateExists := true, candidateTenantId := some "tenant-a", control := none
      activeOutboxCount := 0, activeDownstreamCount := 0 }
  valid := by decide +kernel

def sampleRequests : List LifecycleRequest :=
  [⟨LifecycleStore.sampleHoldCommand, sampleContext, .utc 30⟩,
   ⟨sampleReleaseCommand, sampleContext, .utc 40⟩]

section Sample

local instance lifecycleSha256 : Sha256 := Sha256.zeros

theorem sampleRequests_applied :
    LifecycleRequest.appliedCount sampleControl sampleRequests = 2 := by
  decide +kernel

/-- Both requests are applied, each of them safely. -/
theorem lifecycleRuns_safe_sample :
    Runs.Throughout LifecycleRequest.step LifecycleRequest.SafeStep sampleControl
      sampleRequests ∧
    (Runs.run LifecycleRequest.step sampleControl sampleRequests).val.version = 3 ∧
    LifecycleRequest.HoldsRestored sampleControl sampleRequests := by
  obtain ⟨safe, version, restored⟩ := LifecycleRequest.lifecycleRuns_safe Sha256.zeros_hexText
    Sha256.zeros_sized sampleControl sampleRequests
  refine ⟨safe, ?_, restored⟩
  rw [version, sampleRequests_applied]
  rfl

end Sample

section
variable [Sha256]

/-! ## The control that is stored -/

namespace LifecycleStore

omit [Sha256] in
theorem over_of_control {context : DataLifecycleCandidateContext} {control : DataLifecycleControl}
    (controlled : context.val.control = some control) : context.onControl control = context := by
  refine Checked.ext ?_
  simp only [DataLifecycleCandidateContext.onControl, ← controlled]

/-- The mutation of an applied evaluation commits what the machine does. -/
theorem applyControlledMutation_commits {s mutated : LifecycleStore}
    {command : DataLifecycleCommand} {evaluation : DataLifecycleEvaluation}
    {control projected committed : DataLifecycleControl} (applied : evaluation.decision = .applied)
    (found : evaluation.projectedControl = some projected)
    (run : s.applyControlledMutation command evaluation projected = .ok (committed, mutated)) :
    commitEvaluation command control evaluation = .ok committed := by
  simp only [applyControlledMutation] at run
  simp only [commitEvaluation, applied, found]
  split at run
  · rename_i redact
    obtain ⟨made, built, run⟩ := Except.seq_returns.mp run
    cases run
    rw [if_pos redact, built]
  · rename_i kept
    cases run
    exact if_neg kept

/-- A command that is executed on a store commits to the control of its candidate what
the machine does. -/
theorem executeDataLifecycle_commits {s after : LifecycleStore} {command : DataLifecycleCommand}
    {work : CandidateWork} {evaluatedAtUtc : DateTime} {result : DataLifecycleOperationResult}
    {control : DataLifecycleControl}
    (controlled : s.controls.get? command.val.candidateId = some control.val)
    (run : s.executeDataLifecycle command work evaluatedAtUtc = .ok (result, after)) :
    after.controls = s.controls ∨ ∃ context committed,
      LifecycleRequest.execute control ⟨command, context, evaluatedAtUtc⟩ =
        .ok (.applied, committed) ∧
      committed.val.candidateId = control.val.candidateId ∧
      after.controls = s.controls.set committed.val.candidateId committed.val := by
  cases executeDataLifecycle_executed run with
  | replayed | conflicting | claimed | absent => exact .inl rfl
  | recorded fresh context load evaluation evaluated present _ mutated mutate =>
      rcases mutationOf_ok mutate with ⟨rfl, _⟩ | ⟨projected, committed, applied, found, _, applies⟩
      · exact .inl rfl
      · obtain ⟨loaded, _, admitted, _, names, subject, _⟩ :=
          evaluateDataLifecycle_applied evaluated applied
        rw [found] at names
        cases names
        have stored := loadCandidateContext_control load admitted.controlled
        rw [controlled] at stored
        have same : loaded = control := Checked.ext (Option.some.inj stored).symm
        subst same
        obtain ⟨⟨tombstone, value⟩, controls, _⟩ := applyControlledMutation_ok applies
        refine .inr ⟨context, committed, ?_, by rw [value]; exact subject.candidateId, controls⟩
        have commits : commitEvaluation command loaded evaluation = .ok committed :=
          applyControlledMutation_commits applied found applies
        simp only [LifecycleRequest.execute, over_of_control admitted.controlled, evaluated,
          Json.ok_bind, commits, applied]
        rfl

/-- A call leaves the control stored under an id as it is or as a request that is
applied leaves it. -/
theorem step_control {s : LifecycleStore} (sound : s.Sound) {id : String}
    {control : DataLifecycleControl} (controlled : s.controls.get? id = some control.val)
    (call : LifecycleCall) :
    (s.step call).controls.get? id = some control.val ∨
    ∃ request committed, LifecycleRequest.execute control request = .ok (.applied, committed) ∧
      (s.step call).controls.get? id = some committed.val := by
  have named : control.val.candidateId = id := (sound id).controlNamed _ controlled
  cases call with
  | write record =>
      left
      rw [step]
      split
      · rename_i after run
        cases writeCandidate_ok run with
        | inserted absent candidates controls =>
            rcases controls with kept | ⟨scope, uncontrolled, added⟩
            · rw [kept, controlled]
            · have other : id ≠ record.candidate.val.candidateId := by
                rintro rfl
                rw [controlled] at uncontrolled
                cases uncontrolled
              rw [added, Dict.get?_set_of_ne _ other, controlled]
        | updated row _ stored _ living candidates controls => rw [controls, controlled]
      · exact controlled
  | execute command work evaluatedAtUtc =>
      rw [step]
      split
      · rename_i result after run
        by_cases here : command.val.candidateId = id
        · subst here
          rcases executeDataLifecycle_commits controlled run with
            kept | ⟨context, committed, applied, same, controls⟩
          · exact .inl (by rw [kept, controlled])
          · refine .inr ⟨_, committed, applied, ?_⟩
            rw [controls, same, named, Dict.get?_set_self]
        · left
          rcases executeDataLifecycle_ok run with ⟨_, controls⟩ |
            ⟨held, projected, redacted, stored, applied⟩
          · rw [controls, controlled]
          · have elsewhere : id ≠ projected.candidateId := by
              rw [applied.subject.candidateId,
                (sound command.val.candidateId).controlNamed _ stored]
              exact fun same => here same.symm
            rw [applied.controls, Dict.get?_set_of_ne _ elsewhere, controlled]
      · exact .inl controlled

/-- The control stored under an id goes through a run of the machine. -/
theorem run_control {s : LifecycleStore} (sound : s.Sound) {id : String}
    {control : DataLifecycleControl} (controlled : s.controls.get? id = some control.val)
    (calls : List LifecycleCall) : ∃ requests,
      (s.run calls).controls.get? id =
        some (Runs.run LifecycleRequest.step control requests).val := by
  induction calls generalizing s control with
  | nil => exact ⟨[], controlled⟩
  | cons call rest ih =>
      have next := step_sound sound call
      rcases step_control sound controlled call with kept | ⟨request, committed, applied, stored⟩
      · exact ih next kept
      · obtain ⟨requests, final⟩ := ih next stored
        have first : LifecycleRequest.step control request = committed := by
          rw [LifecycleRequest.step, applied]
        refine ⟨request :: requests, ?_⟩
        rw [Runs.run_cons, first]
        exact final

end LifecycleStore

end

end LotusIdea

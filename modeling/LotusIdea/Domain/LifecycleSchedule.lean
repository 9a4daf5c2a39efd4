import LotusIdea.Domain.DataLifecycle

/-!
# Scheduled lifecycle review

`domain/data_lifecycle/schedule.py`: the scheduled review reads a snapshot of a
control and its delivery counts and says whether an authorized purge would go
through.  It repeats the guards of the purge, except the one on the retention
policy, so that the two agree where the policy is a governed one or something
else already blocks.
-/

set_option autoImplicit false

namespace LotusIdea

inductive ScheduledLifecycleReviewDecision where
  | readyForAuthorizedPurge
  | blocked
  deriving DecidableEq, Repr

structure ScheduledLifecycleControlSnapshotFields where
  candidateId : String
  tenantId : String
  policyRef : String
  state : DataLifecycleState
  retentionExpiresAtUtc : DateTime
  controlVersion : Int
  activeOutboxCount : Nat
  activeDownstreamCount : Nat
  heldFromState : Option DataLifecycleState := none
  deriving DecidableEq

def ScheduledLifecycleControlSnapshotFields.checks
    (s : ScheduledLifecycleControlSnapshotFields) : List (Bool × PyError) :=
  [requireText s.candidateId "candidate_id",
   requireText s.tenantId "tenant_id",
   requireText s.policyRef "policy_ref",
   requireProviderUtc s.retentionExpiresAtUtc "retention_expires_at_utc",
   (decide (s.controlVersion ≤ 0), .valueError "control_version must be positive"),
   (decide (s.state = .held) && s.heldFromState.isNone,
     .valueError "held lifecycle snapshot requires held_from_state"),
   (!decide (s.state = .held) && s.heldFromState.isSome,
     .valueError "non-held lifecycle snapshot must not carry held_from_state")]

abbrev ScheduledLifecycleControlSnapshot :=
  Checked ScheduledLifecycleControlSnapshotFields.checks

structure ScheduledLifecycleReviewItem where
  snapshot : ScheduledLifecycleControlSnapshot
  decision : ScheduledLifecycleReviewDecision
  blockers : List DataLifecycleBlocker

def scheduledBlockers (snapshot : ScheduledLifecycleControlSnapshot)
    (evaluatedAtUtc : DateTime) : List DataLifecycleBlocker :=
  (if evaluatedAtUtc < snapshot.val.retentionExpiresAtUtc then [.retentionNotExpired] else []) ++
  (if snapshot.val.state = .held then [.legalHoldActive]
   else if snapshot.val.state ≠ .erased then [.invalidState] else []) ++
  (if snapshot.val.activeOutboxCount ≠ 0 ∨ snapshot.val.activeDownstreamCount ≠ 0 then
    [.activeDeliveryWork]
  else [])

/-- `evaluate_scheduled_lifecycle_control`. -/
def evaluateScheduledLifecycleControl (snapshot : ScheduledLifecycleControlSnapshot)
    (evaluatedAtUtc : DateTime) : Except PyError ScheduledLifecycleReviewItem :=
  if !evaluatedAtUtc.isUtc then
    .error (.valueError "evaluated_at_utc must be timezone-aware UTC")
  else
    let blockers := scheduledBlockers snapshot evaluatedAtUtc
    .ok
      { snapshot := snapshot
        decision := if blockers.isEmpty then .readyForAuthorizedPurge else .blocked
        blockers := blockers }

/-- The context carries the facts of the snapshot. -/
structure SameLifecycleFacts (snapshot : ScheduledLifecycleControlSnapshot)
    (context : DataLifecycleCandidateContext) (control : DataLifecycleControl) : Prop where
  present : context.val.candidateExists = true
  controlled : context.val.control = some control
  tenant : context.val.candidateTenantId = some snapshot.val.tenantId
  candidateId : control.val.candidateId = snapshot.val.candidateId
  tenantId : control.val.tenantId = snapshot.val.tenantId
  policyRef : control.val.policyRef = snapshot.val.policyRef
  state : control.val.state = snapshot.val.state
  heldFromState : control.val.heldFromState = snapshot.val.heldFromState
  expires : control.val.retentionExpiresAtUtc = snapshot.val.retentionExpiresAtUtc
  version : control.val.version = snapshot.val.controlVersion
  outbox : context.val.activeOutboxCount = snapshot.val.activeOutboxCount
  downstream : context.val.activeDownstreamCount = snapshot.val.activeDownstreamCount

/-- A receipt that the linked packs of the candidate were disposed of. -/
structure DisposalReceipt (command : DataLifecycleCommand)
    (context : DataLifecycleCandidateContext) (evaluatedAtUtc : DateTime)
    (receipt : VerifiedArchiveLifecycleReceipt) : Prop where
  tenantId : receipt.val.tenantId = command.val.tenantId
  candidateId : receipt.val.candidateId = command.val.candidateId
  linked : receipt.val.evidencePackId ∈ context.val.linkedReportEvidencePackIds
  issued : receipt.val.issuedAtUtc ≤ evaluatedAtUtc
  current : evaluatedAtUtc < receipt.val.expiresAtUtc
  clear : receipt.val.legalHoldStatus = .clear
  disposed : receipt.val.lifecycleAction = .disposalExecuted

/-- A purge of the candidate of the snapshot that everything outside the control
allows. -/
structure AuthorizedPurge (snapshot : ScheduledLifecycleControlSnapshot)
    (command : DataLifecycleCommand) (context : DataLifecycleCandidateContext)
    (evaluatedAtUtc : DateTime) : Prop where
  purge : command.val.action = .purge
  wet : command.val.dryRun = false
  candidateId : command.val.candidateId = snapshot.val.candidateId
  tenantId : command.val.tenantId = snapshot.val.tenantId
  requested : ¬ evaluatedAtUtc < command.val.requestedAtUtc
  privacy : authorityMatches command = true
  attested : command.val.authorityVerificationRequired = true →
    command.val.authorityReceipt.isSome = true
  attests : ∀ receipt, command.val.authorityReceipt = some receipt →
    authorityReceiptMatches command receipt evaluatedAtUtc = true
  approved : ∃ approver, command.val.approverSubject = some approver ∧
    approver ≠ command.val.actorSubject
  unlinked : context.val.linkedReportEvidencePackIds = [] →
    command.val.archiveLifecycleReceipt = none
  disposed : context.val.linkedReportEvidencePackIds ≠ [] →
    ∃ receipt, command.val.archiveLifecycleReceipt = some receipt ∧
      DisposalReceipt command context evaluatedAtUtc receipt

section
variable {snapshot : ScheduledLifecycleControlSnapshot} {command : DataLifecycleCommand}
  {context : DataLifecycleCandidateContext} {control : DataLifecycleControl}
  {evaluatedAtUtc : DateTime}

/-- The archive has nothing against an authorized purge. -/
theorem archivePostureBlockers_disposed
    (authorized : AuthorizedPurge snapshot command context evaluatedAtUtc) :
    archivePostureBlockers command context evaluatedAtUtc = [] := by
  by_cases unlinked : context.val.linkedReportEvidencePackIds = []
  · simp [archivePostureBlockers, authorized.unlinked unlinked, unlinked]
  · obtain ⟨receipt, given, disposal⟩ := authorized.disposed unlinked
    simp [archivePostureBlockers, given, unlinked, disposal.tenantId, disposal.candidateId,
      disposal.linked, disposal.issued, disposal.current, disposal.clear, disposal.disposed,
      authorized.purge]

/-- Of the guards that every action meets, an authorized purge can fail at the
retention policy alone. -/
theorem commonBlockers_authorized (same : SameLifecycleFacts snapshot context control)
    (authorized : AuthorizedPurge snapshot command context evaluatedAtUtc) :
    commonBlockers command context evaluatedAtUtc =
      if snapshot.val.policyRef ∈ knownLocalPolicyRefs then [] else [.retentionPolicyUnknown] := by
  obtain ⟨approver, given, other⟩ := authorized.approved
  cases receipted : command.val.authorityReceipt with
  | none =>
      have free : command.val.authorityVerificationRequired = false := by
        by_contra required
        have present := authorized.attested (by simpa using required)
        simp [receipted] at present
      by_cases known : snapshot.val.policyRef ∈ knownLocalPolicyRefs <;>
        simp [commonBlockers, same.tenant, same.controlled, same.policyRef, authorized.tenantId,
          authorized.privacy, archivePostureBlockers_disposed authorized, given, other,
          receipted, free, known]
  | some receipt =>
      have matching := authorized.attests receipt receipted
      by_cases known : snapshot.val.policyRef ∈ knownLocalPolicyRefs <;>
        simp [commonBlockers, same.tenant, same.controlled, same.policyRef, authorized.tenantId,
          authorized.privacy, archivePostureBlockers_disposed authorized, given, other,
          receipted, matching, known]

theorem hasActiveDelivery_same (same : SameLifecycleFacts snapshot context control) :
    hasActiveDelivery context = true ↔
      snapshot.val.activeOutboxCount ≠ 0 ∨ snapshot.val.activeDownstreamCount ≠ 0 := by
  simp only [hasActiveDelivery, same.outbox, same.downstream, Bool.or_eq_true, decide_eq_true_eq]
  omega

/-- The snapshot is erased, its retention is over and nothing is being delivered. -/
structure PurgeDue (snapshot : ScheduledLifecycleControlSnapshot) (evaluatedAtUtc : DateTime) :
    Prop where
  erased : snapshot.val.state = .erased
  expired : ¬ evaluatedAtUtc < snapshot.val.retentionExpiresAtUtc
  idle : ¬ (snapshot.val.activeOutboxCount ≠ 0 ∨ snapshot.val.activeDownstreamCount ≠ 0)

theorem scheduledBlockers_eq_nil :
    scheduledBlockers snapshot evaluatedAtUtc = [] ↔ PurgeDue snapshot evaluatedAtUtc := by
  simp only [scheduledBlockers, List.append_eq_nil_iff]
  constructor
  · rintro ⟨⟨retention, state⟩, delivery⟩
    refine ⟨?_, ?_, ?_⟩
    · by_contra other
      cases held : snapshot.val.state <;> simp_all
    · intro early
      simp [early] at retention
    · intro active
      rw [if_pos active] at delivery
      cases delivery
  · intro due
    rw [if_neg due.expired, if_neg due.idle]
    simp [due.erased]

/-- The review says ready when the purge is due. -/
theorem scheduled_ready_iff :
    (∃ item, evaluateScheduledLifecycleControl snapshot evaluatedAtUtc = .ok item ∧
        item.decision = .readyForAuthorizedPurge) ↔
      evaluatedAtUtc.isUtc = true ∧ PurgeDue snapshot evaluatedAtUtc := by
  rw [← scheduledBlockers_eq_nil]
  cases utc : evaluatedAtUtc.isUtc with
  | false => simp [evaluateScheduledLifecycleControl, utc]
  | true =>
      cases blockers : scheduledBlockers snapshot evaluatedAtUtc with
      | nil => simp [evaluateScheduledLifecycleControl, utc, blockers]
      | cons first rest => simp [evaluateScheduledLifecycleControl, utc, blockers]

/-- A control that is due for its purge is still valid when it is purged. -/
theorem purged_valid (utc : evaluatedAtUtc.isUtc = true) (erased : control.val.state = .erased) :
    firstFailure (DataLifecycleControlFields.checks
      { control.val with
        state := .purged
        version := control.val.version + 1
        updatedAtUtc := evaluatedAtUtc
        purgedAtUtc := some evaluatedAtUtc }) = none := by
  have subject := control.valid
  simp only [DataLifecycleControlFields.checks, firstFailure_append, firstFailure_cons,
    firstFailure_nil, and_true] at subject ⊢
  obtain ⟨⟨⟨candidate, tenant, policy, expires, updated, version⟩, hold⟩, terminal⟩ := subject
  have positive : decide (control.val.version + 1 ≤ 0) = false := by
    simp only [decide_eq_false_iff_not] at version ⊢
    omega
  refine ⟨⟨⟨candidate, tenant, policy, expires, ?_, positive⟩, ?_⟩, ?_⟩
  · simp [requireProviderUtc, utc]
  · simpa [DataLifecycleControlFields.holdChecks, erased] using hold
  · simp only [DataLifecycleControlFields.terminalChecks,
      DataLifecycleControlFields.effectiveState, DataLifecycleControlFields.isTombstone, erased,
      DataLifecycleControlFields.optionalUtc, firstFailure_append, firstFailure_cons,
      firstFailure_nil] at terminal ⊢
    simp [requireProviderUtc, utc] at terminal ⊢
    tauto

/-- The evaluator applies the purge when it is due and the policy is governed. -/
theorem purge_applied_iff (same : SameLifecycleFacts snapshot context control)
    (authorized : AuthorizedPurge snapshot command context evaluatedAtUtc) :
    (∃ e, evaluateDataLifecycle command context evaluatedAtUtc = .ok e ∧
        e.decision = .applied) ↔
      evaluatedAtUtc.isUtc = true ∧ PurgeDue snapshot evaluatedAtUtc ∧
        snapshot.val.policyRef ∈ knownLocalPolicyRefs := by
  have guards := commonBlockers_authorized same authorized
  constructor
  · rintro ⟨e, run, applied⟩
    obtain ⟨own, projected, admitted, -, -, -, transition⟩ :=
      evaluateDataLifecycle_applied run applied
    have known : snapshot.val.policyRef ∈ knownLocalPolicyRefs := by
      by_contra unknown
      rw [if_neg unknown, admitted.unblocked] at guards
      cases guards
    have stored : own = control :=
      Option.some.inj (admitted.controlled.symm.trans same.controlled)
    subst stored
    rw [evaluateDataLifecycle_admitted admitted, evaluateAction, authorized.purge] at run
    simp only [evaluatePurge] at run
    split at run
    · cases run
      cases applied
    split at run
    · cases run
      cases applied
    split at run
    · cases run
      cases applied
    rename_i unblocked
    simp only [Bool.not_eq_true, Bool.not_eq_false', List.isEmpty_iff, purgeBlockers,
      List.append_eq_nil_iff, ite_eq_right_iff, reduceCtorEq, imp_false, not_not] at unblocked
    obtain ⟨⟨erased, expired⟩, idle⟩ := unblocked
    rw [same.state] at erased
    rw [same.expires] at expired
    rw [Bool.eq_false_iff, ne_eq, hasActiveDelivery_same same] at idle
    exact ⟨admitted.utc, ⟨erased, expired, idle⟩, known⟩
  · rintro ⟨utc, due, known⟩
    rw [if_pos known] at guards
    have erased : control.val.state = .erased := same.state.trans due.erased
    have expired : ¬ evaluatedAtUtc < control.val.retentionExpiresAtUtc := by
      rw [same.expires]
      exact due.expired
    have idle : hasActiveDelivery context = false := by
      rw [Bool.eq_false_iff, ne_eq, hasActiveDelivery_same same]
      exact due.idle
    have unblocked : purgeBlockers context control evaluatedAtUtc = [] := by
      simp [purgeBlockers, erased, expired, idle]
    rw [evaluateDataLifecycle_admitted
        ⟨utc, same.present, authorized.requested, same.controlled, guards⟩,
      evaluateAction, authorized.purge]
    obtain ⟨e, approved, decided⟩ : ∃ e, evaluatePurge command context control evaluatedAtUtc =
        .ok e ∧ e.decision = if command.val.dryRun then .preview else .applied := by
      simp only [evaluatePurge, erased, unblocked, reduceCtorEq, if_false, List.isEmpty_nil,
        Bool.not_true, Bool.false_eq_true]
      exact lifecycleApproved_of_valid (purged_valid utc erased)
    refine ⟨e, approved, ?_⟩
    simpa [authorized.wet] using decided

/-- The scheduled review and the evaluator agree where the retention policy is a
governed one or the snapshot is not due; elsewhere the review says ready and the
evaluator blocks the purge. -/
theorem scheduled_review_agrees_iff (same : SameLifecycleFacts snapshot context control)
    (authorized : AuthorizedPurge snapshot command context evaluatedAtUtc) :
    ((∃ item, evaluateScheduledLifecycleControl snapshot evaluatedAtUtc = .ok item ∧
        item.decision = .readyForAuthorizedPurge) ↔
      ∃ e, evaluateDataLifecycle command context evaluatedAtUtc = .ok e ∧
        e.decision = .applied) ↔
    (snapshot.val.policyRef ∈ knownLocalPolicyRefs ∨ snapshot.val.state ≠ .erased ∨
      evaluatedAtUtc < snapshot.val.retentionExpiresAtUtc ∨
      snapshot.val.activeOutboxCount ≠ 0 ∨ snapshot.val.activeDownstreamCount ≠ 0 ∨
      evaluatedAtUtc.isUtc = false) := by
  rw [scheduled_ready_iff, purge_applied_iff same authorized]
  have due : PurgeDue snapshot evaluatedAtUtc ↔ snapshot.val.state = .erased ∧
      ¬ evaluatedAtUtc < snapshot.val.retentionExpiresAtUtc ∧
      ¬ (snapshot.val.activeOutboxCount ≠ 0 ∨ snapshot.val.activeDownstreamCount ≠ 0) :=
    ⟨fun d => ⟨d.erased, d.expired, d.idle⟩, fun d => ⟨d.1, d.2.1, d.2.2⟩⟩
  rw [due]
  cases utc : evaluatedAtUtc.isUtc with
  | false => simp
  | true => tauto

end

/-! ## A control under a policy that is not governed -/

/-- An erased control past its retention, under a governed policy or another one. -/
def sampleErasedControl (governed : Bool) : DataLifecycleControl where
  val :=
    { candidateId := "idea-1", tenantId := "tenant-a"
      policyRef := if governed then regulatedAdvisoryPolicyRef else "lotus-idea:retired:v1"
      state := .erased, retentionExpiresAtUtc := .utc 100, version := 2
      updatedAtUtc := .utc 20, erasedAtUtc := some (.utc 20) }
  valid := by cases governed <;> decide +kernel

def sampleErasedSnapshot (governed : Bool) : ScheduledLifecycleControlSnapshot where
  val :=
    { candidateId := "idea-1", tenantId := "tenant-a"
      policyRef := (sampleErasedControl governed).val.policyRef
      state := .erased, retentionExpiresAtUtc := .utc 100, controlVersion := 2
      activeOutboxCount := 0, activeDownstreamCount := 0 }
  valid := by cases governed <;> decide +kernel

def sampleErasedContext (governed : Bool) : DataLifecycleCandidateContext where
  val :=
    { candidateExists := true, candidateTenantId := some "tenant-a"
      control := some (sampleErasedControl governed)
      activeOutboxCount := 0, activeDownstreamCount := 0 }
  valid := by cases governed <;> decide +kernel

def samplePurgeCommand : DataLifecycleCommand where
  val :=
    { candidateId := "idea-1", tenantId := "tenant-a", action := .purge
      actorSubject := "operator-1", authorityRef := "bank-privacy-governance:decision-4"
      reason := "retention-over", changeReference := "change-4", idempotencyKey := "purge-1"
      requestFingerprint := "fingerprint-4", correlationId := "correlation-4"
      traceId := "trace-4", requestedAtUtc := .utc 150, dryRun := false
      approverSubject := some "approver-1" }
  valid := by decide +kernel

theorem sampleErased_same (governed : Bool) :
    SameLifecycleFacts (sampleErasedSnapshot governed) (sampleErasedContext governed)
      (sampleErasedControl governed) :=
  ⟨rfl, rfl, rfl, rfl, rfl, rfl, rfl, rfl, rfl, rfl, rfl, rfl⟩

theorem samplePurge_authorized (governed : Bool) :
    AuthorizedPurge (sampleErasedSnapshot governed) samplePurgeCommand
      (sampleErasedContext governed) (.utc 200) where
  purge := rfl
  wet := rfl
  candidateId := rfl
  tenantId := rfl
  requested := by decide
  privacy := by decide +kernel
  attested := fun required => nomatch required
  attests := fun _ given => nomatch given
  approved := ⟨"approver-1", rfl, by decide⟩
  unlinked := fun _ => rfl
  disposed := fun linked => absurd rfl linked

/-- Under a governed policy the review and the evaluator agree. -/
theorem scheduled_review_agrees_iff_sample :
    (∃ item, evaluateScheduledLifecycleControl (sampleErasedSnapshot true) (.utc 200) =
        .ok item ∧ item.decision = .readyForAuthorizedPurge) ↔
      ∃ e, evaluateDataLifecycle samplePurgeCommand (sampleErasedContext true) (.utc 200) =
        .ok e ∧ e.decision = .applied :=
  (scheduled_review_agrees_iff (sampleErased_same true) (samplePurge_authorized true)).mpr
    (.inl (List.mem_cons_self ..))

/-- Under another policy the review says ready and the purge is blocked. -/
theorem scheduled_review_disagrees :
    SameLifecycleFacts (sampleErasedSnapshot false) (sampleErasedContext false)
        (sampleErasedControl false) ∧
      AuthorizedPurge (sampleErasedSnapshot false) samplePurgeCommand
        (sampleErasedContext false) (.utc 200) ∧
      (∃ item, evaluateScheduledLifecycleControl (sampleErasedSnapshot false) (.utc 200) =
        .ok item ∧ item.decision = .readyForAuthorizedPurge) ∧
      ∃ e, evaluateDataLifecycle samplePurgeCommand (sampleErasedContext false) (.utc 200) =
        .ok e ∧ e.decision = .blocked ∧ e.blockers = [.retentionPolicyUnknown] := by
  have unknown : (sampleErasedSnapshot false).val.policyRef ∉ knownLocalPolicyRefs := by
    decide +kernel
  have guards := commonBlockers_authorized (sampleErased_same false) (samplePurge_authorized false)
  rw [if_neg unknown] at guards
  refine ⟨sampleErased_same false, samplePurge_authorized false, ?_, ?_⟩
  · exact scheduled_ready_iff.mpr ⟨rfl, rfl, by decide, by decide⟩
  · refine ⟨lifecycleBlocked (some (sampleErasedControl false)) [.retentionPolicyUnknown], ?_,
      rfl, rfl⟩
    have late : ¬ DateTime.utc 200 < samplePurgeCommand.val.requestedAtUtc := by decide
    have controlled : (sampleErasedContext false).val.control =
        some (sampleErasedControl false) := rfl
    have utc : (DateTime.utc 200).isUtc = true := rfl
    have present : (sampleErasedContext false).val.candidateExists = true := rfl
    simp [evaluateDataLifecycle, utc, present, late, guards, controlled]

end LotusIdea

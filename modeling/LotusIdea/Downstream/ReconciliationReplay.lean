import LotusIdea.Downstream.SubmissionStateMachine

/-!
# Replayed reconciliations

An operator may repeat a reconciliation.  A replay answer should mean that the
record already carries the requested resolution with the same receipt, and a
repeated change should be answered as a replay.  Report receipts are compared
before the resolution and only when they carry a version, so both directions
hold exactly outside two kinds of request.
-/

set_option autoImplicit false

namespace LotusIdea

/-! ## Comparing a report receipt with itself -/

theorem reportMaterialization_isSome {receipt : DownstreamSubmissionOwnerReceipt}
    (report : receipt.val.ownerAuthority = .lotusReport) :
    ∃ evidence, receipt.val.reportMaterialization = some evidence := by
  have passed := receipt.valid
  simp only [OwnerReceiptFields.checks, OwnerReceiptFields.authorityChecks, report, if_true,
    firstFailure_append, firstFailure_cons] at passed
  have present := passed.2.1
  cases found : receipt.val.reportMaterialization with
  | none => simp [found] at present
  | some evidence => exact ⟨evidence, rfl⟩

theorem classify_self {receipt : DownstreamSubmissionOwnerReceipt}
    (report : receipt.val.ownerAuthority = .lotusReport) :
    classifyReportOwnerReceiptProgress receipt receipt =
      if receipt.val.sourceEventVersion.isSome then .exactReplay else .conflict := by
  obtain ⟨evidence, found⟩ := reportMaterialization_isSome report
  cases version : receipt.val.sourceEventVersion with
  | none => simp [classifyReportOwnerReceiptProgress, report, found, version]
  | some number => simp [classifyReportOwnerReceiptProgress, report, found, version]

theorem classify_exactReplay {current proposed : DownstreamSubmissionOwnerReceipt}
    (replay : classifyReportOwnerReceiptProgress current proposed = .exactReplay) :
    proposed = current ∧ current.val.sourceEventVersion.isSome = true := by
  unfold classifyReportOwnerReceiptProgress at replay
  split at replay
  · cases replay
  split at replay
  · split at replay
    · cases replay
    split at replay
    · cases replay
    · rename_i currentVersion cv
      split at replay
      · cases replay
      split at replay
      · split at replay
        · rename_i same
          exact ⟨same, by simp [cv]⟩
        · cases replay
      · cases replay
  · cases replay

theorem classify_advanced_versioned {current proposed : DownstreamSubmissionOwnerReceipt}
    (advanced : classifyReportOwnerReceiptProgress current proposed = .advanced) :
    proposed.val.sourceEventVersion.isSome = true := by
  have later := (classify_advanced advanced).2
  cases version : proposed.val.sourceEventVersion with
  | none =>
      cases own : current.val.sourceEventVersion <;> simp [version, own, versionPrecedes] at later
  | some number => rfl

section Replay
variable [Sha256]

/-! ## The two directions -/

/-- A replay answers only a request for what the record already carries. -/
def ReplaySound (record : DownstreamSubmissionRecord) (q : ReconcileRequest) : Prop :=
  ∀ result, reconcileDownstreamSubmission record q = .ok result → result.decision = .replayed →
    q.resolution.posture = record.val.status ∧ q.ownerReceipt = record.val.ownerReceipt

/-- The same request at any later time, after it was accepted as a change, is a
replay that leaves the record as it is. -/
def ReplayComplete (record : DownstreamSubmissionRecord) (q : ReconcileRequest) : Prop :=
  ∀ new, reconcileDownstreamSubmission record q = .ok ⟨.accepted, some new, none⟩ →
    ∀ repeatedAt : DateTime, repeatedAt.isUtc = true →
      reconcileDownstreamSubmission new { q with reconciledAtUtc := repeatedAt } =
        .ok ⟨.replayed, some new, none⟩

/-- The request passes the checks the operation makes of its arguments. -/
def ReconcileRequest.Admissible (q : ReconcileRequest) (record : DownstreamSubmissionRecord) :
    Prop :=
  firstFailure (q.checks record) = none

/-- A report submission is asked for another resolution with the very receipt,
versioned, that it already stores. -/
def OtherResolutionWithSeenReceipt (record : DownstreamSubmissionRecord) (q : ReconcileRequest) :
    Prop :=
  q.Admissible record ∧ record.val.sourceAuthority = .lotusReport ∧
    q.resolution.posture ≠ record.val.status ∧
    ∃ receipt, record.val.ownerReceipt = some receipt ∧ q.ownerReceipt = some receipt ∧
      receipt.val.sourceEventVersion.isSome = true

/-- An open report submission is resolved with a receipt that has no version. -/
def UnversionedReportChange (record : DownstreamSubmissionRecord) (q : ReconcileRequest) : Prop :=
  q.Admissible record ∧ record.val.sourceAuthority = .lotusReport ∧
    (record.val.status = .inFlight ∨ record.val.status = .reconciliationRequired) ∧
    (lastAudit record).val.changeReference ≠ some q.changeReference ∧
    ∃ receipt, q.ownerReceipt = some receipt ∧ receipt.val.sourceEventVersion = none

/-! ## What the constructor says about open records and moved records -/

theorem open_has_no_receipt {record : DownstreamSubmissionRecord}
    (open_ : record.val.status = .inFlight ∨ record.val.status = .reconciliationRequired) :
    record.val.ownerReceipt = none := by
  obtain ⟨_, _, terminal, _⟩ := SubmissionFields.posture_checks_pass.mp record.wellFormed.posture
  cases stored : record.val.ownerReceipt with
  | none => rfl
  | some receipt =>
      have settled := terminal (by rw [stored]; rfl)
      rcases open_ with status | status <;>
        simp [status, SubmissionFields.isTerminalDownstream] at settled

/-- What admissibility says, argument by argument. -/
theorem admissible_iff {q : ReconcileRequest} {record : DownstreamSubmissionRecord} :
    q.Admissible record ↔
      PyText.isBlank q.actorSubject = false ∧ PyText.isBlank q.reason = false ∧
      PyText.isBlank q.changeReference = false ∧ q.reconciledAtUtc.isUtc = true ∧
      (q.ownerReceipt.isSome = true → q.resolution ≠ .quarantined) ∧
      ∀ receipt, q.ownerReceipt = some receipt →
        receipt.val.ownerAuthority = record.val.sourceAuthority := by
  simp only [ReconcileRequest.Admissible, ReconcileRequest.checks, firstFailure_append,
    firstFailure_cons, firstFailure_nil, requireText_passes, firstFailure_requireAwareUtc, and_true]
  constructor
  · rintro ⟨⟨⟨actor, reason, reference⟩, utc⟩, notQuarantined, authority⟩
    refine ⟨actor, reason, reference, utc, ?_, ?_⟩
    · intro given quarantined
      simp [given, quarantined] at notQuarantined
    · intro receipt given
      simpa [given] using authority
  · rintro ⟨actor, reason, reference, utc, notQuarantined, authority⟩
    refine ⟨⟨⟨actor, reason, reference⟩, utc⟩, ?_, ?_⟩
    · cases given : q.ownerReceipt.isSome with
      | false => rfl
      | true => simp [notQuarantined given]
    · cases given : q.ownerReceipt with
      | none => rfl
      | some receipt => simp [authority receipt given]

/-- An admissible request moves every record that its resolution may leave. -/
theorem reconcile_moves {q : ReconcileRequest} {record : DownstreamSubmissionRecord}
    (admissible : q.Admissible record)
    (keepsReceipt : record.val.ownerReceipt.isSome = true → q.ownerReceipt.isSome = true) :
    ∃ new, transitionRecord record q.change = .ok new := by
  have own := record.wellFormed
  obtain ⟨actor, reason, reference, utc, notQuarantined, authority⟩ := admissible_iff.mp admissible
  have reasonText : (some q.reason).any PyText.isBlank = false := by simpa using reason
  have referenceText : (some q.changeReference).any PyText.isBlank = false := by
    simpa using reference
  obtain ⟨audit, written⟩ := auditEntry_succeeds (record.val.auditHistory.length + 1)
    q.change.action q.change.posture (some record.val.status) own.tenantId own.idempotencyKey
    actor utc reasonText referenceText
  have wellFormed : (record.val.changed q.change audit).WellFormed := by
    have passed : firstFailure (record.val.changed q.change audit).postureChecks = none := by
      rw [SubmissionFields.posture_checks_pass]
      refine ⟨?_, ?_, ?_, ?_⟩
      · intro failing
        cases resolution : q.resolution <;>
          simp_all [SubmissionFields.changed, ReconcileRequest.change,
            SubmissionFields.requiresFailure, DownstreamSubmissionResolution.posture]
      · intro clean
        cases resolution : q.resolution <;>
          simp_all [SubmissionFields.changed, ReconcileRequest.change,
            DownstreamSubmissionResolution.posture]
      · intro carried
        have given : q.ownerReceipt.isSome = true := by
          cases asked : q.ownerReceipt with
          | some receipt => rfl
          | none =>
              rw [← asked]
              apply keepsReceipt
              simpa [SubmissionFields.changed, ReconcileRequest.change, asked] using carried
        have resolved := notQuarantined given
        cases resolution : q.resolution <;>
          simp_all [SubmissionFields.changed, ReconcileRequest.change,
            SubmissionFields.isTerminalDownstream, DownstreamSubmissionResolution.posture]
      · intro receipt carried
        cases asked : q.ownerReceipt with
        | some given =>
            have same : given = receipt := by
              simpa [SubmissionFields.changed, ReconcileRequest.change, asked] using carried
            rw [← same]
            exact authority given asked
        | none =>
            have stored : record.val.ownerReceipt = some receipt := by
              simpa [SubmissionFields.changed, ReconcileRequest.change, asked] using carried
            rw [stored, asked] at keepsReceipt
            cases keepsReceipt rfl
    refine ⟨own.tenantId, own.idempotencyKey, own.requestFingerprint, own.resourceId,
      own.supportReference, own.supportIdentity, own.submittedAtUtc, utc, own.attemptCount,
      by simp [SubmissionFields.changed], ?_, ?_, passed⟩
    · cases resolution : q.resolution <;>
        simp [SubmissionFields.changed, ReconcileRequest.change, resolution, reason]
    · have lease := own.lease
      simp only [SubmissionFields.leaseChecks, firstFailure_append, firstFailure_cons] at lease ⊢
      refine ⟨⟨?_, lease.1.2⟩, lease.2⟩
      have settled := (resolution_terminal q.resolution).1
      simp [SubmissionFields.changed, ReconcileRequest.change, settled]
  refine ⟨⟨_, SubmissionFields.checks_pass.mpr wellFormed⟩, ?_⟩
  simp only [transitionRecord]
  exact Except.seq_returns.mpr ⟨audit, written, Checked.make_of_valid _⟩

/-! ## Evaluating a reconciliation -/

theorem reconcile_exactReplay {record : DownstreamSubmissionRecord} {q : ReconcileRequest}
    (admissible : q.Admissible record) (replay : q.reportProgress record = some .exactReplay) :
    reconcileDownstreamSubmission record q = .ok ⟨.replayed, some record, none⟩ := by
  simp only [reconcileDownstreamSubmission, validate_eq_ok.mpr admissible, replay, if_true]
  rfl

theorem reconcile_conflict {record : DownstreamSubmissionRecord} {q : ReconcileRequest}
    (admissible : q.Admissible record) (conflict : q.reportProgress record = some .conflict) :
    reconcileDownstreamSubmission record q =
      .ok ⟨.invalidState, some record, some "downstream_submission_owner_version_conflict"⟩ := by
  simp only [reconcileDownstreamSubmission, validate_eq_ok.mpr admissible, conflict,
    Option.some.injEq, reduceCtorEq, if_false, if_true]
  rfl

theorem reconcile_repeats {record : DownstreamSubmissionRecord} {q : ReconcileRequest}
    (admissible : q.Admissible record) (unclassified : q.reportProgress record = none)
    (reference : (lastAudit record).val.changeReference = some q.changeReference)
    (repeated : q.repeats record (lastAudit record) = true) :
    reconcileDownstreamSubmission record q = .ok ⟨.replayed, some record, none⟩ := by
  simp only [reconcileDownstreamSubmission, validate_eq_ok.mpr admissible, unclassified,
    reduceCtorEq, if_false, reference, if_true, repeated]
  rfl

theorem reconcile_accepts {record new : DownstreamSubmissionRecord} {q : ReconcileRequest}
    (admissible : q.Admissible record) (unclassified : q.reportProgress record = none)
    (reference : (lastAudit record).val.changeReference ≠ some q.changeReference)
    (open_ : record.val.status = .inFlight ∨ record.val.status = .reconciliationRequired)
    (moved : transitionRecord record q.change = .ok new) :
    reconcileDownstreamSubmission record q = .ok ⟨.accepted, some new, none⟩ := by
  have reconcilable : q.reconcilable record = true := by
    rcases open_ with status | status <;> simp [ReconcileRequest.reconcilable, status]
  simp only [reconcileDownstreamSubmission, validate_eq_ok.mpr admissible, unclassified,
    reduceCtorEq, if_false, reference, reconcilable, Bool.not_true, Bool.false_eq_true, moved]
  rfl

/-- An accepted change came from an open record without a receipt, or advanced
the receipt of an accepted one. -/
theorem accepted_change {record new : DownstreamSubmissionRecord} {q : ReconcileRequest}
    (run : reconcileDownstreamSubmission record q = .ok ⟨.accepted, some new, none⟩) :
    q.Admissible record ∧ transitionRecord record q.change = .ok new ∧
      q.reconcilable record = true ∧
      (lastAudit record).val.changeReference ≠ some q.changeReference := by
  obtain ⟨admissible, answers⟩ := reconcile_cases run
  refine ⟨admissible, ?_⟩
  rcases answers with ⟨_, same⟩ | ⟨_, same⟩ | ⟨_, _, same⟩ | same | ⟨_, same⟩ |
    ⟨reconcilable, reference, updated, moved, same⟩
  · cases same
  · cases same
  · cases same
  · cases same
  · cases same
  · cases same
    exact ⟨moved, reconcilable, reference⟩

theorem lastAudit_changed {record new : DownstreamSubmissionRecord} {change : PostureChange}
    {audit : DownstreamSubmissionAuditEntry} (fields : new.val = record.val.changed change audit) :
    lastAudit new = audit := by
  simp only [lastAudit, fields, SubmissionFields.changed, List.getLast_append_singleton]

theorem admissible_repeated {record new : DownstreamSubmissionRecord} {q : ReconcileRequest}
    {repeatedAt : DateTime} (admissible : q.Admissible record) (utc : repeatedAt.isUtc = true)
    (authority : new.val.sourceAuthority = record.val.sourceAuthority) :
    ReconcileRequest.Admissible { q with reconciledAtUtc := repeatedAt } new := by
  rw [admissible_iff] at admissible ⊢
  obtain ⟨actor, reason, reference, _, notQuarantined, owner⟩ := admissible
  refine ⟨actor, reason, reference, utc, notQuarantined, ?_⟩
  intro receipt given
  rw [authority]
  exact owner receipt given

/-! ## The exact condition -/

theorem sound_of_condition {record : DownstreamSubmissionRecord} {q : ReconcileRequest}
    (chained : AuditChained record) (unseen : ¬ OtherResolutionWithSeenReceipt record q) :
    ReplaySound record q := by
  intro result run replayed
  obtain ⟨admissible, answers⟩ := reconcile_cases run
  rcases answers with ⟨replay, _⟩ | ⟨_, rfl⟩ | ⟨_, repeated, _⟩ | rfl | ⟨_, rfl⟩ |
    ⟨_, _, updated, _, rfl⟩
  · unfold ReconcileRequest.reportProgress at replay
    split at replay
    · rename_i proposed current given stored
      split at replay
      · rename_i report
        obtain ⟨same, versioned⟩ := classify_exactReplay (Option.some.inj replay)
        subst same
        refine ⟨?_, given.trans stored.symm⟩
        by_contra different
        exact unseen ⟨admissible, report, different, proposed, stored, given, versioned⟩
      · cases replay
    · cases replay
  · cases replayed
  · simp only [ReconcileRequest.repeats, Bool.and_eq_true, decide_eq_true_eq] at repeated
    obtain ⟨⟨⟨posture, _⟩, _⟩, receipt⟩ := repeated
    exact ⟨posture.symm.trans (lastAudit_posture chained), receipt.symm⟩
  · cases replayed
  · cases replayed
  · cases replayed

/-- The receipt of an accepted report change has a version, outside the second
kind of request. -/
theorem accepted_versioned {record new : DownstreamSubmissionRecord} {q : ReconcileRequest}
    {receipt : DownstreamSubmissionOwnerReceipt}
    (versioned : ¬ UnversionedReportChange record q)
    (run : reconcileDownstreamSubmission record q = .ok ⟨.accepted, some new, none⟩)
    (report : record.val.sourceAuthority = .lotusReport)
    (given : q.ownerReceipt = some receipt) : receipt.val.sourceEventVersion.isSome = true := by
  obtain ⟨admissible, _, reconcilable, reference⟩ := accepted_change run
  have whenOpen : record.val.status = .inFlight ∨ record.val.status = .reconciliationRequired →
      receipt.val.sourceEventVersion.isSome = true := by
    intro open_
    by_contra unversioned
    have absent : receipt.val.sourceEventVersion = none := by simpa using unversioned
    exact versioned ⟨admissible, report, open_, reference, receipt, given, absent⟩
  rcases reconcilable_cases reconcilable with status | status | ⟨_, _, advanced⟩
  · exact whenOpen (Or.inl status)
  · exact whenOpen (Or.inr status)
  · unfold ReconcileRequest.reportProgress at advanced
    split at advanced
    · rename_i proposed current asked stored
      rw [given] at asked
      cases asked
      rw [if_pos report] at advanced
      exact classify_advanced_versioned (Option.some.inj advanced)
    · cases advanced

theorem complete_of_condition {record : DownstreamSubmissionRecord} {q : ReconcileRequest}
    (versioned : ¬ UnversionedReportChange record q) : ReplayComplete record q := by
  intro new run repeatedAt utc
  obtain ⟨admissible, moved, reconcilable, _⟩ := accepted_change run
  obtain ⟨audit, _, actor, posture, _, reason, reference, fields⟩ := transitionRecord_returns moved
  have authority : new.val.sourceAuthority = record.val.sourceAuthority := by
    rw [fields]
    rfl
  have again := admissible_repeated admissible utc authority
  have last : lastAudit new = audit := lastAudit_changed fields
  have storedReceipt : new.val.ownerReceipt = q.ownerReceipt.or record.val.ownerReceipt := by
    rw [fields]
    rfl
  -- a request without a comparable receipt is recognised by its change reference
  have byReference : new.val.ownerReceipt = q.ownerReceipt →
      ReconcileRequest.reportProgress { q with reconciledAtUtc := repeatedAt } new = none →
      reconcileDownstreamSubmission new { q with reconciledAtUtc := repeatedAt } =
        .ok ⟨.replayed, some new, none⟩ := by
    intro sameReceipt unclassified
    refine reconcile_repeats again unclassified ?_ ?_
    · rw [last, reference]
      rfl
    · simp only [ReconcileRequest.repeats, last, Bool.and_eq_true, decide_eq_true_eq]
      exact ⟨⟨⟨posture, actor⟩, reason⟩, sameReceipt⟩
  obtain given | ⟨receipt, given⟩ := Option.eq_none_or_eq_some q.ownerReceipt
  · have open_ : record.val.status = .inFlight ∨ record.val.status = .reconciliationRequired := by
      rcases reconcilable_cases reconcilable with status | status | ⟨_, _, advanced⟩
      · exact Or.inl status
      · exact Or.inr status
      · simp [ReconcileRequest.reportProgress, given] at advanced
    refine byReference ?_ ?_
    · rw [storedReceipt, open_has_no_receipt open_, given]
      rfl
    · simp [ReconcileRequest.reportProgress, given]
  · have stored : new.val.ownerReceipt = some receipt := by
      rw [storedReceipt, given]
      rfl
    by_cases report : record.val.sourceAuthority = .lotusReport
    · have owner : receipt.val.ownerAuthority = .lotusReport := by
        rw [← report]
        exact (admissible_iff.mp admissible).2.2.2.2.2 receipt given
      have hasVersion := accepted_versioned versioned run report given
      refine reconcile_exactReplay again ?_
      simp [ReconcileRequest.reportProgress, given, stored, authority, report,
        classify_self owner, hasVersion]
    · refine byReference (stored.trans given.symm) ?_
      simp [ReconcileRequest.reportProgress, given, stored, authority, report]

theorem unsound_when_seen {record : DownstreamSubmissionRecord} {q : ReconcileRequest}
    (seen : OtherResolutionWithSeenReceipt record q) : ¬ ReplaySound record q := by
  obtain ⟨admissible, report, different, receipt, stored, given, versioned⟩ := seen
  have owner : receipt.val.ownerAuthority = .lotusReport := by
    rw [← report]
    exact (admissible_iff.mp admissible).2.2.2.2.2 receipt given
  have replay : q.reportProgress record = some .exactReplay := by
    simp [ReconcileRequest.reportProgress, given, stored, report, classify_self owner, versioned]
  intro sound
  exact different (sound _ (reconcile_exactReplay admissible replay) rfl).1

theorem incomplete_when_unversioned {record : DownstreamSubmissionRecord} {q : ReconcileRequest}
    (unversioned : UnversionedReportChange record q) : ¬ ReplayComplete record q := by
  obtain ⟨admissible, report, open_, reference, receipt, given, absent⟩ := unversioned
  have owner : receipt.val.ownerAuthority = .lotusReport := by
    rw [← report]
    exact (admissible_iff.mp admissible).2.2.2.2.2 receipt given
  have free := open_has_no_receipt open_
  have unclassified : q.reportProgress record = none := by
    simp [ReconcileRequest.reportProgress, free]
  obtain ⟨new, moved⟩ := reconcile_moves admissible (by simp [free])
  obtain ⟨audit, _, _, _, _, _, _, fields⟩ := transitionRecord_returns moved
  have accepted := reconcile_accepts admissible unclassified reference open_ moved
  have utc : q.reconciledAtUtc.isUtc = true := (admissible_iff.mp admissible).2.2.2.1
  have authority : new.val.sourceAuthority = record.val.sourceAuthority := by
    rw [fields]
    rfl
  have again := admissible_repeated admissible utc authority
  have stored : new.val.ownerReceipt = some receipt := by
    rw [fields]
    simp [SubmissionFields.changed, ReconcileRequest.change, given]
  have conflict : q.reportProgress new = some .conflict := by
    simp [ReconcileRequest.reportProgress, given, stored, authority, report,
      classify_self owner, absent]
  intro complete
  have replayed := complete new accepted q.reconciledAtUtc utc
  rw [reconcile_conflict again conflict] at replayed
  cases replayed

/-- Replays are sound and complete for a reachable record exactly when the
request is of neither kind. -/
theorem reconciliation_replay_iff (calls : List SubmissionCall) (key : String)
    (record : DownstreamSubmissionRecord)
    (stored : (SubmissionStore.run Dict.empty calls).get? key = some record)
    (q : ReconcileRequest) :
    (ReplaySound record q ∧ ReplayComplete record q) ↔
      (¬ OtherResolutionWithSeenReceipt record q ∧ ¬ UnversionedReportChange record q) := by
  have chained := (sound_run_empty calls key record stored).2.1
  constructor
  · rintro ⟨sound, complete⟩
    exact ⟨fun seen => unsound_when_seen seen sound,
      fun unversioned => incomplete_when_unversioned unversioned complete⟩
  · rintro ⟨unseen, versioned⟩
    exact ⟨sound_of_condition chained unseen, complete_of_condition versioned⟩

end Replay

section Sample

local instance reconciliationSha256 : Sha256 := submissionDigests

/-- The operator asks for a rejection with the receipt of the acceptance. -/
def sampleRejection : ReconcileRequest where
  resolution := .rejectedByDownstream
  actorSubject := "operator-2"
  reason := "owner withdrew"
  changeReference := "change-2"
  reconciledAtUtc := .utc 200
  ownerReceipt := some sampleReceipt

theorem sampleRejection_replayed :
    ((SubmissionStore.run Dict.empty sampleFirst).get? "tenant-a\x00key-1").any (fun record =>
      record.val.status = .acceptedByDownstream &&
        match reconcileDownstreamSubmission record sampleRejection with
        | .ok result => result.decision = .replayed
        | .error _ => false) = true := by
  decide +kernel

/-- The rejection is answered as a replay although the record is accepted. -/
theorem reconciliation_replay_unsound :
    ¬ ∀ (calls : List SubmissionCall) (key : String) (record : DownstreamSubmissionRecord),
      (SubmissionStore.run Dict.empty calls).get? key = some record →
        ∀ q : ReconcileRequest, ReplaySound record q ∧ ReplayComplete record q := by
  intro claimed
  have evaluated := sampleRejection_replayed
  cases stored : (SubmissionStore.run Dict.empty sampleFirst).get? "tenant-a\x00key-1" with
  | none =>
      rw [stored] at evaluated
      cases evaluated
  | some record =>
      have sound := (claimed sampleFirst "tenant-a\x00key-1" record stored sampleRejection).1
      rw [stored] at evaluated
      simp only [Option.any_some, Bool.and_eq_true, decide_eq_true_eq] at evaluated
      obtain ⟨accepted, answer⟩ := evaluated
      cases run : reconcileDownstreamSubmission record sampleRejection with
      | error raised =>
          rw [run] at answer
          cases answer
      | ok result =>
          rw [run] at answer
          have carried := (sound result run (by simpa using answer)).1
          rw [accepted] at carried
          cases carried

theorem reconciliation_replay_iff_sample : ∃ record,
    (SubmissionStore.run Dict.empty sampleFirst).get? "tenant-a\x00key-1" = some record ∧
    ((ReplaySound record sampleReconcile ∧ ReplayComplete record sampleReconcile) ↔
      (¬ OtherResolutionWithSeenReceipt record sampleReconcile ∧
        ¬ UnversionedReportChange record sampleReconcile)) := by
  obtain ⟨record, stored⟩ := Option.isSome_iff_exists.mp sampleRun_stored
  exact ⟨record, stored, reconciliation_replay_iff sampleFirst _ record stored sampleReconcile⟩

end Sample

end LotusIdea

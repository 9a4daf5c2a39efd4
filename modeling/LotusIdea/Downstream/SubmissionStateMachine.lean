import LotusIdea.Domain.SubmissionTransitions
import LotusIdea.Foundation.Runs

/-!
# The submission record over whole runs

Claims, finalizes and operator reconciliations reach the store in any order.
Every step leaves the store as it was, adds a freshly claimed record, or moves
one record by a change that the record operations admit; the safety of a run is
read off that one fact.
-/

set_option autoImplicit false

namespace LotusIdea

/-! ## Postures, receipts and audit chains -/

def isOperatorAction (action : DownstreamSubmissionAuditAction) : Bool :=
  action = .reconciled || action = .quarantined

/-- Each entry starts from the posture the one before it ended in. -/
def ChainedFrom (before : Option DownstreamSubmissionPosture) :
    List DownstreamSubmissionAuditEntry → Option DownstreamSubmissionPosture → Prop
  | [], after => before = after
  | entry :: rest, after =>
      entry.val.previousPosture = before ∧ ChainedFrom (some entry.val.currentPosture) rest after

theorem chainedFrom_concat {before after : Option DownstreamSubmissionPosture}
    {history : List DownstreamSubmissionAuditEntry} {entry : DownstreamSubmissionAuditEntry}
    (chained : ChainedFrom before history after) (linked : entry.val.previousPosture = after) :
    ChainedFrom before (history ++ [entry]) (some entry.val.currentPosture) := by
  induction history generalizing before with
  | nil =>
      have same : before = after := chained
      exact ⟨linked.trans same.symm, rfl⟩
  | cons first rest ih =>
      obtain ⟨previous, further⟩ := chained
      exact ⟨previous, ih further⟩

theorem chainedFrom_getLast {before after : Option DownstreamSubmissionPosture}
    {history : List DownstreamSubmissionAuditEntry} (chained : ChainedFrom before history after)
    (nonempty : history ≠ []) : some (history.getLast nonempty).val.currentPosture = after := by
  induction history generalizing before with
  | nil => exact absurd rfl nonempty
  | cons first rest ih =>
      obtain ⟨_, further⟩ := chained
      cases rest with
      | nil => exact further
      | cons second others => exact ih further (List.cons_ne_nil _ _)

theorem resolution_terminal (resolution : DownstreamSubmissionResolution) :
    resolution.posture ≠ .inFlight ∧ resolution.posture ≠ .reconciliationRequired := by
  cases resolution <;> decide

def isAbsorbing (status : DownstreamSubmissionPosture) : Bool :=
  status = .rejectedByDownstream || status = .notConfigured || status = .quarantined

/-- An absent version is lower than any present one. -/
def versionPrecedes : Option Int → Option Int → Bool
  | none, some _ => true
  | some current, some proposed => current < proposed
  | _, none => false

/-- The owner facts that name one realisation, whatever its version. -/
def receiptIdentity (receipt : DownstreamSubmissionOwnerReceipt) :=
  (receipt.val.ownerAuthority, receipt.val.ownerRequestId, receipt.val.ownerRealizationId,
    receipt.val.ownerWorkId, receipt.val.sourceEvidenceFingerprint,
    receipt.val.reportMaterialization.map (reportReceiptIdentity receipt))

/-- The receipt stays, or moves to a later version of the same realisation. -/
def ReceiptProgress (old new : Option DownstreamSubmissionOwnerReceipt) : Prop :=
  new = old ∨ ∃ current proposed, old = some current ∧ new = some proposed ∧
    receiptIdentity current = receiptIdentity proposed ∧
    versionPrecedes current.val.sourceEventVersion proposed.val.sourceEventVersion = true

theorem versionPrecedes_trans {a b c : Option Int} (first : versionPrecedes a b = true)
    (second : versionPrecedes b c = true) : versionPrecedes a c = true := by
  cases a <;> cases b <;> cases c <;> simp_all [versionPrecedes]
  omega

theorem ReceiptProgress.trans {a b c : Option DownstreamSubmissionOwnerReceipt}
    (first : ReceiptProgress a b) (second : ReceiptProgress b c) : ReceiptProgress a c := by
  rcases first with rfl | ⟨x, y, rfl, rfl, sameFirst, laterFirst⟩
  · exact second
  · rcases second with rfl | ⟨y', z, same, rfl, sameSecond, laterSecond⟩
    · exact Or.inr ⟨x, y, rfl, rfl, sameFirst, laterFirst⟩
    · cases Option.some.inj same
      exact Or.inr ⟨x, z, rfl, rfl, sameFirst.trans sameSecond,
        versionPrecedes_trans laterFirst laterSecond⟩

/-- An advance keeps the realisation and raises the version. -/
theorem classify_advanced {current proposed : DownstreamSubmissionOwnerReceipt}
    (advanced : classifyReportOwnerReceiptProgress current proposed = .advanced) :
    receiptIdentity current = receiptIdentity proposed ∧
      versionPrecedes current.val.sourceEventVersion proposed.val.sourceEventVersion = true := by
  unfold classifyReportOwnerReceiptProgress at advanced
  split at advanced
  · cases advanced
  split at advanced
  · rename_i currentEvidence proposedEvidence proposedVersion ce pe pv
    split at advanced
    · cases advanced
    rename_i sameIdentity
    have same := not_not.mp sameIdentity
    refine ⟨?_, ?_⟩
    · have parts := same
      simp only [reportReceiptIdentity, ReportReceiptIdentity.mk.injEq] at parts
      simp only [receiptIdentity, ce, pe, Option.map_some, same, parts]
    · rw [pv]
      split at advanced
      · rename_i cv
        rw [cv]
        rfl
      · rename_i currentVersion cv
        rw [cv]
        split at advanced
        · cases advanced
        · rename_i notLower
          split at advanced
          · split at advanced <;> cases advanced
          · rename_i notEqual
            simp only [versionPrecedes, decide_eq_true_eq]
            omega
  · cases advanced

section Store
variable [Sha256]

/-! ## Calls and the changes they make -/

/-- A writer's call on the submission store. -/
inductive SubmissionCall where
  | claim (request : ClaimRequest)
  | finalize (tenantId idempotencyKey : String) (request : FinalizeRequest)
  | reconcile (supportReference : String) (request : ReconcileRequest)

/-- The store after a call; a call that raises has written nothing. -/
def SubmissionStore.step (store : SubmissionStore) : SubmissionCall → SubmissionStore
  | .claim request =>
      match createDownstreamSubmissionClaim request with
      | .ok record => (store.claimDownstreamSubmission record).2
      | .error _ => store
  | .finalize tenantId idempotencyKey request =>
      match store.finalizeDownstreamSubmission tenantId idempotencyKey request with
      | .ok (_, next) => next
      | .error _ => store
  | .reconcile supportReference request =>
      match store.reconcileDownstreamSubmission supportReference request with
      | .ok (_, next) => next
      | .error _ => store

def SubmissionStore.run (store : SubmissionStore) (calls : List SubmissionCall) :
    SubmissionStore :=
  Runs.run SubmissionStore.step store calls

/-- What a step may do to the record it moves. -/
inductive RecordChange (old new : DownstreamSubmissionRecord) : Prop where
  | finalized (request : FinalizeRequest) (inFlight : old.val.status = .inFlight)
      (moved : transitionRecord old request.change = .ok new)
  | reconciled (request : ReconcileRequest) (reconcilable : request.reconcilable old = true)
      (moved : transitionRecord old request.change = .ok new)

/-- The store writes of a step. -/
inductive StoreChange (store : SubmissionStore) : SubmissionStore → Prop where
  | unchanged : StoreChange store store
  | claimed (request : ClaimRequest) (record : DownstreamSubmissionRecord)
      (created : createDownstreamSubmissionClaim request = .ok record)
      (newKey : store.get? (SubmissionStore.storageKey record) = none)
      (newResource : store.resourceExisting record = none) :
      StoreChange store (store.set (SubmissionStore.storageKey record) record)
  | moved (key : String) (old new : DownstreamSubmissionRecord)
      (stored : store.get? key = some old) (change : RecordChange old new) :
      StoreChange store (store.set key new)

/-! ## Records under their storage keys -/

def SubmissionStore.Keyed (store : SubmissionStore) : Prop :=
  ∀ key record, store.get? key = some record → key = SubmissionStore.storageKey record

theorem storageKey_of_change {old new : DownstreamSubmissionRecord} (change : RecordChange old new) :
    SubmissionStore.storageKey new = SubmissionStore.storageKey old := by
  have fields : ∃ posture audit, new.val = old.val.changed posture audit := by
    cases change with
    | finalized request _ moved =>
        obtain ⟨audit, _, _, _, _, _, _, fields⟩ := transitionRecord_returns moved
        exact ⟨_, audit, fields⟩
    | reconciled request _ moved =>
        obtain ⟨audit, _, _, _, _, _, _, fields⟩ := transitionRecord_returns moved
        exact ⟨_, audit, fields⟩
  obtain ⟨posture, audit, fields⟩ := fields
  simp only [SubmissionStore.storageKey, fields, SubmissionFields.changed]

theorem claim_storeChange {store : SubmissionStore} {request : ClaimRequest}
    {record : DownstreamSubmissionRecord}
    (created : createDownstreamSubmissionClaim request = .ok record) :
    StoreChange store (store.claimDownstreamSubmission record).2 := by
  unfold SubmissionStore.claimDownstreamSubmission
  cases known : store.get? (SubmissionStore.storageKey record) with
  | some existing => exact StoreChange.unchanged
  | none =>
      cases retained : store.resourceExisting record with
      | some other => exact StoreChange.unchanged
      | none => exact StoreChange.claimed request record created known retained

theorem finalize_storeChange {store next : SubmissionStore} {tenantId idempotencyKey : String}
    {request : FinalizeRequest} {result : DownstreamSubmissionMutationResult}
    (run : store.finalizeDownstreamSubmission tenantId idempotencyKey request =
      .ok (result, next)) : StoreChange store next := by
  simp only [SubmissionStore.finalizeDownstreamSubmission] at run
  obtain ⟨_, _, run⟩ := Except.seq_returns.mp run
  cases stored : store.get? (downstreamSubmissionIdentity tenantId idempotencyKey) with
  | none =>
      simp only [stored] at run
      cases run
      exact StoreChange.unchanged
  | some existing =>
      simp only [stored] at run
      obtain ⟨answer, finalized, run⟩ := Except.seq_returns.mp run
      cases run
      rcases finalize_cases finalized with rfl | ⟨_, rfl⟩ | ⟨inFlight, _, updated, moved, rfl⟩
      · exact StoreChange.unchanged
      · exact StoreChange.unchanged
      · exact StoreChange.moved _ existing updated stored
          (RecordChange.finalized request inFlight moved)

theorem bySupportReference_returns {store : SubmissionStore} {supportReference : String}
    {existing : DownstreamSubmissionRecord}
    (run : store.downstreamSubmissionBySupportReference supportReference = .ok (some existing)) :
    existing ∈ store.values ∧ existing.val.supportReference = supportReference := by
  simp only [SubmissionStore.downstreamSubmissionBySupportReference] at run
  obtain ⟨_, _, run⟩ := Except.seq_returns.mp run
  have found := Except.ok.inj run
  exact ⟨List.mem_of_find?_eq_some found, by simpa using List.find?_some found⟩

theorem reconcile_storeChange {store next : SubmissionStore} {supportReference : String}
    {request : ReconcileRequest} {result : DownstreamSubmissionMutationResult}
    (keyed : store.Keyed)
    (run : store.reconcileDownstreamSubmission supportReference request = .ok (result, next)) :
    StoreChange store next := by
  simp only [SubmissionStore.reconcileDownstreamSubmission] at run
  obtain ⟨found, lookup, run⟩ := Except.seq_returns.mp run
  cases found with
  | none =>
      cases run
      exact StoreChange.unchanged
  | some existing =>
      obtain ⟨answer, reconciled, run⟩ := Except.seq_returns.mp run
      cases run
      obtain ⟨key, stored⟩ := Dict.mem_values_iff.mp (bySupportReference_returns lookup).1
      have sameKey : key = SubmissionStore.storageKey existing := keyed key existing stored
      subst sameKey
      rcases (reconcile_cases reconciled).2 with
        ⟨_, rfl⟩ | ⟨_, rfl⟩ | ⟨_, _, rfl⟩ | rfl | ⟨_, rfl⟩ | ⟨reconcilable, _, updated, moved, rfl⟩
      · exact StoreChange.unchanged
      · exact StoreChange.unchanged
      · exact StoreChange.unchanged
      · exact StoreChange.unchanged
      · exact StoreChange.unchanged
      · exact StoreChange.moved _ existing updated stored
          (RecordChange.reconciled request reconcilable moved)

theorem step_storeChange {store : SubmissionStore} (keyed : store.Keyed) (call : SubmissionCall) :
    StoreChange store (store.step call) := by
  cases call with
  | claim request =>
      simp only [SubmissionStore.step]
      cases created : createDownstreamSubmissionClaim request with
      | ok record => exact claim_storeChange created
      | error raised => exact StoreChange.unchanged
  | finalize tenantId idempotencyKey request =>
      simp only [SubmissionStore.step]
      cases run : store.finalizeDownstreamSubmission tenantId idempotencyKey request with
      | ok answer => exact finalize_storeChange run
      | error raised => exact StoreChange.unchanged
  | reconcile supportReference request =>
      simp only [SubmissionStore.step]
      cases run : store.reconcileDownstreamSubmission supportReference request with
      | ok answer => exact reconcile_storeChange keyed run
      | error raised => exact StoreChange.unchanged

/-! ## The audit chain and the operator's resolution -/

/-- The history starts from no posture and ends in the record's status. -/
def AuditChained (record : DownstreamSubmissionRecord) : Prop :=
  ChainedFrom none record.val.auditHistory (some record.val.status)

/-- Every resolution an operator recorded is the record's present status, and
no worker can finalize from it. -/
def ResolutionKept (record : DownstreamSubmissionRecord) : Prop :=
  ∀ entry ∈ record.val.auditHistory, isOperatorAction entry.val.action = true →
    entry.val.currentPosture = record.val.status ∧ record.val.status ≠ .inFlight ∧
      record.val.status ≠ .reconciliationRequired

theorem lastAudit_posture {record : DownstreamSubmissionRecord} (chained : AuditChained record) :
    (lastAudit record).val.currentPosture = record.val.status :=
  Option.some.inj (chainedFrom_getLast chained record.wellFormed.auditHistory)

theorem created_record {request : ClaimRequest} {record : DownstreamSubmissionRecord}
    (created : createDownstreamSubmissionClaim request = .ok record) :
    ∃ audit : DownstreamSubmissionAuditEntry, record.val.auditHistory = [audit] ∧
      audit.val.action = .claimed ∧ audit.val.previousPosture = none ∧
      audit.val.currentPosture = .inFlight ∧ record.val.status = .inFlight := by
  simp only [createDownstreamSubmissionClaim] at created
  obtain ⟨audit, written, made⟩ := Except.seq_returns.mp created
  obtain ⟨action, _, current, previous, _, _⟩ := auditEntry_returns written
  have fields := Checked.make_eq_ok.mp made
  rw [fields]
  exact ⟨audit, rfl, action, previous, current, rfl⟩

theorem created_chained {request : ClaimRequest} {record : DownstreamSubmissionRecord}
    (created : createDownstreamSubmissionClaim request = .ok record) :
    AuditChained record ∧ ResolutionKept record := by
  obtain ⟨audit, history, action, previous, current, status⟩ := created_record created
  refine ⟨?_, ?_⟩
  · simp only [AuditChained, history, status]
    exact ⟨previous, congrArg some current⟩
  · intro entry member operator
    rw [history, List.mem_singleton] at member
    subst member
    simp [action, isOperatorAction] at operator

theorem change_chained {old new : DownstreamSubmissionRecord} (change : RecordChange old new)
    (chained : AuditChained old) : AuditChained new := by
  have link : ∃ posture audit, new.val = old.val.changed posture audit ∧
      audit.val.previousPosture = some old.val.status ∧
      audit.val.currentPosture = posture.posture := by
    cases change with
    | finalized request _ moved =>
        obtain ⟨audit, _, _, current, previous, _, _, fields⟩ := transitionRecord_returns moved
        exact ⟨_, audit, fields, previous, current⟩
    | reconciled request _ moved =>
        obtain ⟨audit, _, _, current, previous, _, _, fields⟩ := transitionRecord_returns moved
        exact ⟨_, audit, fields, previous, current⟩
  obtain ⟨posture, audit, fields, previous, current⟩ := link
  have extended := chainedFrom_concat chained previous
  rw [current] at extended
  simpa only [AuditChained, fields, SubmissionFields.changed] using extended

/-- The reconcilable statuses other than in flight and reconciliation required
are an accepted record moving to a later receipt. -/
theorem reconcilable_cases {request : ReconcileRequest} {record : DownstreamSubmissionRecord}
    (reconcilable : request.reconcilable record = true) :
    record.val.status = .inFlight ∨ record.val.status = .reconciliationRequired ∨
      (record.val.status = .acceptedByDownstream ∧
        request.resolution.posture = .acceptedByDownstream ∧
        request.reportProgress record = some .advanced) := by
  simp only [ReconcileRequest.reconcilable, Bool.or_eq_true, Bool.and_eq_true,
    decide_eq_true_eq] at reconcilable
  rcases reconcilable with (inFlight | required) | ⟨⟨accepted, posture⟩, advanced⟩
  · exact Or.inl inFlight
  · exact Or.inr (Or.inl required)
  · exact Or.inr (Or.inr ⟨accepted, posture, advanced⟩)

theorem change_resolutionKept {old new : DownstreamSubmissionRecord} (change : RecordChange old new)
    (kept : ResolutionKept old) : ResolutionKept new := by
  cases change with
  | finalized request inFlight moved =>
      obtain ⟨audit, action, _, _, _, _, _, fields⟩ := transitionRecord_returns moved
      have worker : isOperatorAction audit.val.action = false := by
        rw [action, FinalizeRequest.change]
        split <;> rfl
      intro entry member operator
      rw [fields, SubmissionFields.changed, List.mem_append, List.mem_singleton] at member
      rcases member with earlier | rfl
      · exact absurd inFlight (kept entry earlier operator).2.1
      · rw [worker] at operator
        cases operator
  | reconciled request reconcilable moved =>
      obtain ⟨audit, action, _, current, _, _, _, fields⟩ := transitionRecord_returns moved
      have status : new.val.status = request.resolution.posture := by
        rw [fields]
        rfl
      have terminal := resolution_terminal request.resolution
      intro entry member operator
      rw [fields, SubmissionFields.changed, List.mem_append, List.mem_singleton] at member
      rw [status]
      refine ⟨?_, terminal⟩
      rcases member with earlier | rfl
      · -- only an accepted record can be reconciled after a resolution
        obtain ⟨same, notInFlight, notRequired⟩ := kept entry earlier operator
        rcases reconcilable_cases reconcilable with inFlight | required | ⟨accepted, posture, _⟩
        · exact absurd inFlight notInFlight
        · exact absurd required notRequired
        · rw [same, accepted, posture]
      · exact current

/-! ## How a record evolves -/

structure Evolves (old new : DownstreamSubmissionRecord) : Prop where
  appended : old.val.auditHistory <+: new.val.auditHistory
  absorbed : isAbsorbing old.val.status = true → new = old
  accepted : old.val.status = .acceptedByDownstream →
    new.val.status = .acceptedByDownstream ∧
      ReceiptProgress old.val.ownerReceipt new.val.ownerReceipt

theorem Evolves.refl (record : DownstreamSubmissionRecord) : Evolves record record :=
  ⟨List.prefix_refl _, fun _ => rfl, fun accepted => ⟨accepted, Or.inl rfl⟩⟩

theorem Evolves.trans {a b c : DownstreamSubmissionRecord} (first : Evolves a b)
    (second : Evolves b c) : Evolves a c := by
  refine ⟨first.appended.trans second.appended, ?_, ?_⟩
  · intro absorbing
    have same := first.absorbed absorbing
    subst same
    exact second.absorbed absorbing
  · intro accepted
    obtain ⟨acceptedThen, progress⟩ := first.accepted accepted
    obtain ⟨acceptedNow, further⟩ := second.accepted acceptedThen
    exact ⟨acceptedNow, progress.trans further⟩

theorem change_evolves {old new : DownstreamSubmissionRecord} (change : RecordChange old new) :
    Evolves old new := by
  cases change with
  | finalized request inFlight moved =>
      obtain ⟨audit, _, _, _, _, _, _, fields⟩ := transitionRecord_returns moved
      refine ⟨?_, ?_, ?_⟩
      · rw [fields]
        exact List.prefix_append _ _
      · intro absorbing
        simp [inFlight, isAbsorbing] at absorbing
      · intro accepted
        rw [inFlight] at accepted
        cases accepted
  | reconciled request reconcilable moved =>
      obtain ⟨audit, _, _, _, _, _, _, fields⟩ := transitionRecord_returns moved
      have open_ := reconcilable_cases reconcilable
      refine ⟨?_, ?_, ?_⟩
      · rw [fields]
        exact List.prefix_append _ _
      · intro absorbing
        rcases open_ with status | status | ⟨status, _⟩ <;>
          simp [status, isAbsorbing] at absorbing
      · intro accepted
        rcases open_ with status | status | ⟨_, posture, advanced⟩
        · rw [status] at accepted
          cases accepted
        · rw [status] at accepted
          cases accepted
        · rw [fields]
          refine ⟨posture, ?_⟩
          unfold ReconcileRequest.reportProgress at advanced
          split at advanced
          · rename_i proposed current ownReceipt stored
            split at advanced
            · obtain ⟨same, later⟩ := classify_advanced (Option.some.inj advanced)
              refine Or.inr ⟨current, proposed, stored, ?_, same, later⟩
              simp [SubmissionFields.changed, ReconcileRequest.change, ownReceipt]
            · cases advanced
          · cases advanced

/-! ## Runs -/

/-- The invariant of every reachable store. -/
def SubmissionStore.Sound (store : SubmissionStore) : Prop :=
  ∀ key record, store.get? key = some record →
    key = SubmissionStore.storageKey record ∧ AuditChained record ∧ ResolutionKept record

theorem SubmissionStore.Sound.keyed {store : SubmissionStore} (sound : store.Sound) : store.Keyed :=
  fun key record stored => (sound key record stored).1

theorem sound_empty : SubmissionStore.Sound (Dict.empty : SubmissionStore) := by
  intro key record stored
  simp at stored

theorem storeChange_sound {store next : SubmissionStore} (sound : store.Sound)
    (change : StoreChange store next) : next.Sound := by
  cases change with
  | unchanged => exact sound
  | claimed request record created newKey newResource =>
      exact Dict.forall_get?_set sound ⟨rfl, created_chained created⟩
  | moved key old new stored change =>
      obtain ⟨keyed, chained, kept⟩ := sound key old stored
      exact Dict.forall_get?_set sound ⟨keyed.trans (storageKey_of_change change).symm,
        change_chained change chained, change_resolutionKept change kept⟩

theorem step_sound {store : SubmissionStore} (sound : store.Sound) (call : SubmissionCall) :
    (store.step call).Sound :=
  storeChange_sound sound (step_storeChange sound.keyed call)

theorem run_sound {store : SubmissionStore} (sound : store.Sound) (calls : List SubmissionCall) :
    (store.run calls).Sound :=
  Runs.invariant SubmissionStore.step (fun _ => True) SubmissionStore.Sound
    (fun _ call _ own => step_sound own call) sound fun _ _ => trivial

/-- Every record of the first store is in the second one, evolved. -/
def SubmissionStore.Extends (store next : SubmissionStore) : Prop :=
  ∀ key old, store.get? key = some old → ∃ new, next.get? key = some new ∧ Evolves old new

theorem storeChange_extends {store next : SubmissionStore} (change : StoreChange store next) :
    store.Extends next := by
  intro key old stored
  cases change with
  | unchanged => exact ⟨old, stored, Evolves.refl old⟩
  | claimed request record created newKey newResource =>
      have other : key ≠ SubmissionStore.storageKey record := by
        rintro rfl
        rw [newKey] at stored
        cases stored
      exact ⟨old, (Dict.get?_set_of_ne record other).trans stored, Evolves.refl old⟩
  | moved at_ before after storedBefore change =>
      by_cases same : key = at_
      · subst same
        rw [storedBefore] at stored
        cases stored
        exact ⟨after, Dict.get?_set_self _ _ _, change_evolves change⟩
      · exact ⟨old, (Dict.get?_set_of_ne after same).trans stored, Evolves.refl old⟩

theorem run_extends {store : SubmissionStore} (sound : store.Sound) (calls : List SubmissionCall) :
    store.Extends (store.run calls) := by
  refine Runs.related SubmissionStore.step (fun _ => True) SubmissionStore.Sound
    SubmissionStore.Extends ?_ ?_ ?_ ?_ sound fun _ _ => trivial
  · exact fun s key old stored => ⟨old, stored, Evolves.refl old⟩
  · intro a b c first second key old stored
    obtain ⟨mid, storedMid, evolvedMid⟩ := first key old stored
    obtain ⟨new, storedNew, evolvedNew⟩ := second key mid storedMid
    exact ⟨new, storedNew, evolvedMid.trans evolvedNew⟩
  · exact fun s call _ own => step_sound own call
  · exact fun s call _ own => storeChange_extends (step_storeChange own.keyed call)

theorem sound_run_empty (calls : List SubmissionCall) :
    (SubmissionStore.run Dict.empty calls).Sound :=
  run_sound sound_empty calls

/-- A worker's finalize leaves every record that is not in flight as it is. -/
theorem finalize_leaves {store : SubmissionStore} {key : String}
    {record : DownstreamSubmissionRecord} (stored : store.get? key = some record)
    (settled : record.val.status ≠ .inFlight) (tenantId idempotencyKey : String)
    (request : FinalizeRequest) :
    (store.step (.finalize tenantId idempotencyKey request)).get? key = some record := by
  simp only [SubmissionStore.step]
  cases run : store.finalizeDownstreamSubmission tenantId idempotencyKey request with
  | error raised => exact stored
  | ok answer =>
      obtain ⟨result, next⟩ := answer
      simp only [SubmissionStore.finalizeDownstreamSubmission] at run
      obtain ⟨_, _, run⟩ := Except.seq_returns.mp run
      cases target : store.get? (downstreamSubmissionIdentity tenantId idempotencyKey) with
      | none =>
          simp only [target] at run
          cases run
          exact stored
      | some existing =>
          simp only [target] at run
          obtain ⟨answer, finalized, run⟩ := Except.seq_returns.mp run
          cases run
          rcases finalize_cases finalized with rfl | ⟨_, rfl⟩ | ⟨inFlight, _, updated, _, rfl⟩
          · exact stored
          · exact stored
          · have other : key ≠ downstreamSubmissionIdentity tenantId idempotencyKey := by
              rintro rfl
              rw [stored] at target
              cases target
              exact settled inFlight
            exact (Dict.get?_set_of_ne updated other).trans stored

/-- The submission record under any run of claims, finalizes and operator
reconciliations: `first` leads to the record, `later` is whatever follows. -/
theorem submission_state_machine (first later : List SubmissionCall) (key : String)
    (record : DownstreamSubmissionRecord)
    (stored : (SubmissionStore.run Dict.empty first).get? key = some record) :
    AuditChained record ∧ (lastAudit record).val.currentPosture = record.val.status ∧
    ∃ final, (SubmissionStore.run Dict.empty (first ++ later)).get? key = some final ∧
      record.val.auditHistory <+: final.val.auditHistory ∧
      (isAbsorbing record.val.status = true → final = record) ∧
      (record.val.status = .acceptedByDownstream →
        final.val.status = .acceptedByDownstream ∧
          ReceiptProgress record.val.ownerReceipt final.val.ownerReceipt) ∧
      ∀ entry ∈ record.val.auditHistory, isOperatorAction entry.val.action = true →
        final.val.status = entry.val.currentPosture ∧
        ∀ tenantId idempotencyKey request,
          ((SubmissionStore.run Dict.empty first).step
            (.finalize tenantId idempotencyKey request)).get? key = some record := by
  have sound := sound_run_empty first
  obtain ⟨_, chained, kept⟩ := sound key record stored
  have continued : SubmissionStore.run Dict.empty (first ++ later) =
      (SubmissionStore.run Dict.empty first).run later :=
    Runs.run_append SubmissionStore.step Dict.empty first later
  obtain ⟨final, storedFinal, evolved⟩ := run_extends sound later key record stored
  obtain ⟨_, _, keptFinal⟩ := run_sound sound later key final storedFinal
  refine ⟨chained, lastAudit_posture chained, final, by rw [continued]; exact storedFinal,
    evolved.appended, evolved.absorbed, evolved.accepted, ?_⟩
  intro entry member operator
  have memberFinal : entry ∈ final.val.auditHistory := evolved.appended.subset member
  refine ⟨(keptFinal entry memberFinal operator).1.symm, ?_⟩
  exact finalize_leaves stored (kept entry member operator).2.1

end Store

/-! ## A report submission that an operator accepts while it is in flight -/

/-- The SHA-256 digests of the texts that the sample submission hashes. -/
@[reducible] def submissionDigests : Sha256 :=
  Sha256.tabled
    [("tenant-a\x00key-1", "5cff184318e60f174e6edafa283dd8acccc398687d56c4838ccdb288bcb169eb"),
     ("tenant-a\x00key-1:1:claimed", "15691652fab1bbc000a07da46e54e6ff45c1865543dba79f890c8e06ae8884eb"),
     ("tenant-a\x00key-1:2:reconciled", "12c700f05613d8b59d15a58d015b47a39514e2e42a97ba7eff48e5c2368fbad6")]
    fun _ text => text

def sampleMaterialization : ReportMaterializationReceiptEvidence where
  val :=
    { status := "accepted", materializationStatus := "accepted"
      statusUrl := "/reports/jobs/job-1", reportEvidencePackId := "pack-1"
      conversionIntentId := "intent-1", candidateId := "candidate-1"
      evidencePacketId := "packet-1", createsReportJob := true, createsRenderedOutput := false
      createsArchiveRecord := false, renderJobId := none, archiveDocumentId := none
      supportabilityStatus := "not_certified"
      remainingBlockers := ["client_publication_authority_blocked",
        "supported_feature_promotion_missing"] }
  valid := by decide

def sampleReceipt : DownstreamSubmissionOwnerReceipt where
  val :=
    { ownerAuthority := .lotusReport, ownerRequestId := "request-1", ownerRealizationId := "job-1"
      ownerWorkId := none, sourceEventVersion := some 1
      sourceEvidenceFingerprint := "sha256:evidence"
      reportMaterialization := some sampleMaterialization }
  valid := by decide

def sampleClaim : ClaimRequest where
  tenantId := "tenant-a"
  idempotencyKey := "key-1"
  requestFingerprint := "request-print"
  resourceType := .reportEvidencePack
  resourceId := "pack-1"
  target := .reportEvidence
  sourceAuthority := .lotusReport
  actorSubject := "advisor-1"
  claimedAtUtc := .utc 0
  leaseOwner := "worker-1"
  leaseAttemptId := "attempt-1"
  leaseExpiresAtUtc := .utc 300

def sampleReconcile : ReconcileRequest where
  resolution := .acceptedByDownstream
  actorSubject := "operator-1"
  reason := "owner confirmed"
  changeReference := "change-1"
  reconciledAtUtc := .utc 100
  ownerReceipt := some sampleReceipt

section Sample

local instance submissionSha256 : Sha256 := submissionDigests

def sampleFirst : List SubmissionCall :=
  [.claim sampleClaim, .reconcile "downstream-submission-5cff184318e60f174e6edafa" sampleReconcile]

set_option maxRecDepth 10000 in
theorem sampleRun_stored :
    ((SubmissionStore.run Dict.empty sampleFirst).get? "tenant-a\x00key-1").isSome = true := by
  decide +kernel

theorem submission_state_machine_sample : ∃ record final,
    (SubmissionStore.run Dict.empty sampleFirst).get? "tenant-a\x00key-1" = some record ∧
    AuditChained record ∧
    (SubmissionStore.run Dict.empty (sampleFirst ++ [.claim sampleClaim])).get?
      "tenant-a\x00key-1" = some final ∧
    record.val.auditHistory <+: final.val.auditHistory := by
  obtain ⟨record, stored⟩ := Option.isSome_iff_exists.mp sampleRun_stored
  obtain ⟨chained, _, final, storedFinal, appended, _⟩ :=
    submission_state_machine sampleFirst [.claim sampleClaim] "tenant-a\x00key-1" record stored
  exact ⟨record, final, stored, chained, storedFinal, appended⟩

end Sample

end LotusIdea

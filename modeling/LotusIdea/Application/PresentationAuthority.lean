import LotusIdea.Application.WorkflowRuns
import LotusIdea.Postgres.PresentationReceipts
import LotusIdea.Repository.RevokedAuthority

/-!
# What a Workbench decision rests on

A receipt is accepted for the version of the candidate that it names, and every later
version leaves it behind.  A review that claims the Workbench reads its receipt under
the tenant of the candidate and asks for the candidate's own version, so the receipt
shows exactly the evidence that the decision names.
-/

set_option autoImplicit false

namespace LotusIdea

open IdeaRepository (ResultRequest PrecheckRequest)

section
variable [Sha256]

/-! ## The evidence that a receipt shows -/

/-- What a presentation and a candidate have in common. -/
structure ShownEvidence where
  version : IdeaVersion
  sourceRevisionVectorDigest : Option String
  sourceCutPosture : SourceCutPosture

def CandidatePresentationReceipt.shown (receipt : CandidatePresentationReceipt) :
    ShownEvidence where
  version := toLex (receipt.val.candidateMaterialVersion, receipt.val.candidateEvidenceVersion)
  sourceRevisionVectorDigest := receipt.val.sourceRevisionVectorDigest
  sourceCutPosture := receipt.val.sourceCutPosture

def CandidateEvidenceIdentity.shown (i : CandidateEvidenceIdentity) : ShownEvidence where
  version := i.version
  sourceRevisionVectorDigest := some i.val.sourceRevisionVectorDigest
  sourceCutPosture := i.val.sourceCutPosture

/-- The evidence of the candidate of a record, as a presentation shows it. -/
def CandidatePersistenceRecord.shown (r : CandidatePersistenceRecord) : ShownEvidence :=
  (CandidateEvidenceIdentity.fromCandidate r.val.candidate).shown

/-- A receipt that passes the checks shows the candidate as it is. -/
theorem shown_of_matching {receipt : CandidatePresentationReceipt}
    {record : CandidatePersistenceRecord}
    (matching : firstFailure
      (presentationReceiptCandidateChecks receipt record.val.candidate) = none) :
    receipt.shown = record.shown ∧
      ∃ scope, record.val.candidate.val.accessScope = some scope ∧
        scope.val.tenantId = receipt.val.tenantId := by
  simp only [presentationReceiptCandidateChecks, firstFailure_append, firstFailure_cons,
    firstFailure_nil, bne_eq_false_iff_eq, Bool.not_eq_false', decide_eq_false_iff_not, ne_eq,
    not_not, and_true] at matching
  obtain ⟨_, _, tenant, material, evidence, digest, posture, _⟩ := matching
  refine ⟨?_, ?_⟩
  · simp only [CandidatePresentationReceipt.shown, CandidatePersistenceRecord.shown,
      CandidateEvidenceIdentity.shown, CandidateEvidenceIdentity.fromCandidate,
      CandidateEvidenceIdentity.version, material, evidence, digest, posture]
  · obtain ⟨scope, held, same⟩ := (Option.any_eq_true _ _).mp tenant
    exact ⟨scope, held, (of_decide_eq_true same).symm⟩

/-! ## What the receipts of a state stand for -/

/-- A receipt stands under its identity for a stored candidate of its tenant: no later
than the candidate, and at its version the candidate as it is. -/
structure ReceiptStands (s : IdeaRepository) (key : String × String)
    (receipt : CandidatePresentationReceipt) : Prop where
  identity : presentationReceiptIdentity receipt = key
  shows : ∃ record scope, s.candidateRecords.get? receipt.val.candidateId = some record ∧
    record.val.candidate.val.accessScope = some scope ∧
    scope.val.tenantId = receipt.val.tenantId ∧
    VersionLedger.Issued ShownEvidence.version receipt.shown record.shown

/-- The presentation that a Workbench decision on a candidate of a tenant rests on. -/
structure RestsOn (tenantId : String) (decision : GovernedReviewDecision)
    (receipt : CandidatePresentationReceipt) : Prop where
  receiptId : decision.val.presentationReceiptId = some receipt.val.receiptId
  candidateId : receipt.val.candidateId = decision.val.candidateId
  tenantId : receipt.val.tenantId = tenantId
  materialVersion : receipt.val.candidateMaterialVersion = decision.val.candidateMaterialVersion
  evidenceVersion : receipt.val.candidateEvidenceVersion = decision.val.candidateEvidenceVersion
  revisionDigest : receipt.val.sourceRevisionVectorDigest =
    some decision.val.sourceRevisionVectorDigest
  cutPosture : receipt.val.sourceCutPosture = decision.val.sourceCutPosture
  snapshotDigest : decision.val.queueSnapshotDigest = some receipt.val.queueSnapshotDigest
  opened : receipt.val.acceptedAtUtc ≤ decision.val.acceptedAtUtc
  open_ : decision.val.acceptedAtUtc ≤ receipt.val.acceptedAtUtc.shift workbenchReviewWindow

/-- The Workbench decisions of a record rest on stored receipts. -/
def DecisionsRest (s : IdeaRepository) (id : String) (record : CandidatePersistenceRecord) :
    Prop :=
  ∀ decision ∈ record.val.reviewDecisions, decision.val.reviewChannel = .workbench →
    decision.val.candidateId = id ∧
    ∃ scope receipt, record.val.candidate.val.accessScope = some scope ∧
      s.presentationReceipts.get? (presentationReceiptIdentity receipt) = some receipt ∧
      RestsOn scope.val.tenantId decision receipt

structure PresentationsStand (s : IdeaRepository) : Prop where
  keyed : s.Keyed
  receipts : ∀ key receipt, s.presentationReceipts.get? key = some receipt →
    ReceiptStands s key receipt
  decisions : ∀ id record, s.candidateRecords.get? id = some record → DecisionsRest s id record

theorem presentationsStand_empty : PresentationsStand IdeaRepository.empty where
  keyed := keyed_empty
  receipts := by
    intro key receipt stored
    simp [IdeaRepository.empty] at stored
  decisions := by
    intro id record stored
    simp [IdeaRepository.empty] at stored

/-! ## Receipts over the calls of the repository -/

/-- A call leaves the receipts alone, or accepts one for the candidate as it is. -/
inductive ReceiptsAfter (s : IdeaRepository) (c : RepositoryCall) : Prop where
  | same (kept : (s.step c).presentationReceipts = s.presentationReceipts)
  | accepted (receipt : CandidatePresentationReceipt) (record : CandidatePersistenceRecord)
      (unseen : s.presentationReceipts.get? (presentationReceiptIdentity receipt) = none)
      (stored : s.candidateRecords.get? receipt.val.candidateId = some record)
      (matching : firstFailure
        (presentationReceiptCandidateChecks receipt record.val.candidate) = none)
      (records : (s.step c).candidateRecords = s.candidateRecords)
      (written : (s.step c).presentationReceipts =
        s.presentationReceipts.set (presentationReceiptIdentity receipt) receipt)

theorem mutate_receipts (s : IdeaRepository) (c : MutationCall) :
    (s.mutate c).2.presentationReceipts = s.presentationReceipts := by
  have effect := mutate_effect s c
  generalize s.mutate c = mutated at effect ⊢
  cases effect <;> rfl

theorem LineageWrites.receipts {s next : IdeaRepository} {q : IdeaRepository.LineageRequest}
    (writes : LineageWrites s q next) : next.presentationReceipts = s.presentationReceipts := by
  cases writes <;> rfl

theorem KeyBound.receipts {s next : IdeaRepository} (bound : KeyBound s next) :
    next.presentationReceipts = s.presentationReceipts := by
  rcases bound with rfl | ⟨_, _, _, rfl⟩ <;> rfl

theorem receipts_after_step (s : IdeaRepository) (c : RepositoryCall) : ReceiptsAfter s c := by
  cases c with
  | mutate c => exact .same (mutate_receipts s c)
  | transition q =>
      apply ReceiptsAfter.same
      simp only [IdeaRepository.step, IdeaRepository.transitionCandidate]
      split
      · rfl
      split
      · rfl
      split <;> rfl
  | precheckReview q =>
      have bound : KeyBound s (s.precheckReviewMutation q).2 := precheck_keyBound s q
      exact .same bound.receipts
  | precheckOutcome q =>
      have bound : KeyBound s (s.precheckConversionOutcomeMutation q).2 := precheck_keyBound s q
      exact .same bound.receipts
  | requestDeliveryRun key payload =>
      apply ReceiptsAfter.same
      simp only [IdeaRepository.step, IdeaRepository.recordOutboxDeliveryRunRequest]
      split
      · rfl
      split <;> rfl
  | deliver c => exact .same rfl
  | recordLineage q => exact .same (lineage_writes s q).receipts
  | recordLineageRequest q key payload => exact .same (lineageRequest_writes s q key payload).receipts
  | recordPresentation receipt =>
      have effect := presentation_effect s receipt
      cases run : s.recordPresentationReceipt receipt with
      | mk answer next =>
          rw [run] at effect
          have moved : s.step (.recordPresentation receipt) = next := by
            rw [IdeaRepository.step, run]
          cases effect with
          | refused error => exact .same (by rw [moved])
          | answered result _ => exact .same (by rw [moved])
          | written record unseen stored matching =>
              exact .accepted receipt record unseen stored matching (by rw [moved]) (by rw [moved])

/-- An accepted receipt stands unchanged. -/
theorem step_keeps_presentation {s : IdeaRepository} (c : RepositoryCall)
    {key : String × String} {receipt : CandidatePresentationReceipt}
    (stored : s.presentationReceipts.get? key = some receipt) :
    (s.step c).presentationReceipts.get? key = some receipt := by
  cases receipts_after_step s c with
  | same kept => rw [kept, stored]
  | accepted other record unseen _ _ _ written =>
      have apart : key ≠ presentationReceiptIdentity other := by
        intro here
        rw [here, unseen] at stored
        cases stored
      rw [written, Dict.get?_set_of_ne other apart, stored]

theorem run_keeps_presentation {s : IdeaRepository} {calls : List RepositoryCall}
    {key : String × String} {receipt : CandidatePresentationReceipt}
    (stored : s.presentationReceipts.get? key = some receipt) :
    (s.run calls).presentationReceipts.get? key = some receipt :=
  Runs.invariant IdeaRepository.step (fun _ => True)
    (fun s => s.presentationReceipts.get? key = some receipt)
    (fun _ c _ held => step_keeps_presentation c held) stored fun _ _ => trivial

/-! ## Receipts stand over the calls -/

/-- A reconciliation leaves the receipts of the former version behind; every other step
shows the same evidence. -/
theorem RecordStep.issued {c : RepositoryCall} {id : String}
    {old new : CandidatePersistenceRecord} {shown : ShownEvidence} (governed : c.Governed)
    (step : RecordStep c id (some old) new)
    (issued : VersionLedger.Issued ShownEvidence.version shown old.shown) :
    VersionLedger.Issued ShownEvidence.version shown new.shown := by
  rcases step.moves governed with reconciled | standing
  · exact issued.advance reconciled.next.later
  · have same : new.shown = old.shown := by
      rw [CandidatePersistenceRecord.shown, CandidatePersistenceRecord.shown,
        standing.candidate.evidence]
    rw [same]
    exact issued

theorem stands_after_records {s next : IdeaRepository} {c : RepositoryCall} (governed : c.Governed)
    (steps : ∀ id, next.candidateRecords.get? id = s.candidateRecords.get? id ∨
      ∃ new, next.candidateRecords.get? id = some new ∧
        RecordStep c id (s.candidateRecords.get? id) new)
    {key : String × String} {receipt : CandidatePresentationReceipt}
    (stands : ReceiptStands s key receipt) : ReceiptStands next key receipt := by
  obtain ⟨identity, record, scope, stored, tenant, own, issued⟩ := stands
  refine ⟨identity, ?_⟩
  rcases steps receipt.val.candidateId with same | ⟨new, now, step⟩
  · exact ⟨record, scope, by rw [same, stored], tenant, own, issued⟩
  · rw [stored] at step
    exact ⟨new, scope, now, by rw [step.accessScope governed, tenant], own,
      step.issued governed issued⟩

/-- The receipts of every state stand for their candidates. -/
theorem receiptStands_after_step {s : IdeaRepository} (keyed : s.Keyed) {c : RepositoryCall}
    (governed : c.Governed)
    (stands : ∀ key receipt, s.presentationReceipts.get? key = some receipt →
      ReceiptStands s key receipt) :
    ∀ key receipt, (s.step c).presentationReceipts.get? key = some receipt →
      ReceiptStands (s.step c) key receipt := by
  intro key receipt stored
  have steps := step_record keyed c
  cases receipts_after_step s c with
  | same kept =>
      rw [kept] at stored
      exact stands_after_records governed steps (stands key receipt stored)
  | accepted other record unseen found matching records written =>
      by_cases here : key = presentationReceiptIdentity other
      · subst here
        rw [written, Dict.get?_set_self] at stored
        cases stored
        obtain ⟨shown, scope, tenant, own⟩ := shown_of_matching matching
        refine ⟨rfl, record, scope, by rw [records, found], tenant, own, ?_⟩
        rw [shown]
        exact VersionLedger.Issued.refl _
      · rw [written, Dict.get?_set_of_ne other here] at stored
        exact stands_after_records governed steps (stands key receipt stored)

/-! ## Decisions rest on receipts -/

/-- The call records a review. -/
def RepositoryCall.isReview : RepositoryCall → Bool
  | .mutate (.recordReviewAction _) => true
  | _ => false

/-- Decisions keep resting on their receipts when no decision is added. -/
theorem decisionsRest_kept {s next : IdeaRepository} {id : String}
    {old new : CandidatePersistenceRecord}
    (receipts : ∀ key receipt, s.presentationReceipts.get? key = some receipt →
      next.presentationReceipts.get? key = some receipt)
    (scope : new.val.candidate.val.accessScope = old.val.candidate.val.accessScope)
    {decision : GovernedReviewDecision} (rest : DecisionsRest s id old)
    (held : decision ∈ old.val.reviewDecisions)
    (workbench : decision.val.reviewChannel = .workbench) :
    decision.val.candidateId = id ∧
    ∃ scope receipt, new.val.candidate.val.accessScope = some scope ∧
      next.presentationReceipts.get? (presentationReceiptIdentity receipt) = some receipt ∧
      RestsOn scope.val.tenantId decision receipt := by
  obtain ⟨own, scope_, receipt, tenant, stored, rests⟩ := rest decision held workbench
  exact ⟨own, scope_, receipt, by rw [scope, tenant], receipts _ _ stored, rests⟩

omit [Sha256] in
theorem RecordStep.decisions_kept {c : RepositoryCall} {id : String}
    {old? : Option CandidatePersistenceRecord} {new : CandidatePersistenceRecord}
    (step : RecordStep c id old? new) (other : c.isReview = false) :
    new.val.reviewDecisions = old?.elim [] fun old => old.val.reviewDecisions := by
  cases step with
  | created q _ _ entry _ _ _ decisions _ => exact decisions
  | reconciled _ _ _ _ decisions _ => exact decisions
  | transitioned _ _ _ _ decisions _ => exact decisions
  | reviewed q isReview _ _ _ _ _ =>
      subst isReview
      cases other
  | converted q _ _ _ _ _ _ _ decisions _ => exact decisions
  | annotated _ _ decisions _ => exact decisions

/-- A call that records no review keeps every decision on its receipt. -/
theorem stand_after_step {s : IdeaRepository} (stand : PresentationsStand s) {c : RepositoryCall}
    (governed : c.Governed) (other : c.isReview = false) : PresentationsStand (s.step c) where
  keyed := keyed_after_step stand.keyed governed
  receipts := receiptStands_after_step stand.keyed governed stand.receipts
  decisions := by
    intro id record stored decision member workbench
    have receipts : ∀ key receipt, s.presentationReceipts.get? key = some receipt →
        (s.step c).presentationReceipts.get? key = some receipt :=
      fun key receipt stored => step_keeps_presentation c stored
    rcases step_record stand.keyed c id with same | ⟨new, now, step⟩
    · rw [same] at stored
      exact decisionsRest_kept receipts rfl (stand.decisions id record stored) member workbench
    · rw [now] at stored
      cases stored
      rw [step.decisions_kept other] at member
      cases before : s.candidateRecords.get? id with
      | none =>
          rw [before] at member
          cases member
      | some old =>
          rw [before] at member step
          exact decisionsRest_kept receipts (step.accessScope governed)
            (stand.decisions id old before) member workbench

/-! ## Reviews through their workflow -/

/-- What the decision of a review says of its presentation. -/
theorem applyReviewAction_presentation {candidate : IdeaCandidate}
    {command : ReviewDecisionCommand} {acceptedAtUtc : DateTime}
    {receipt : Option CandidatePresentationReceipt} {policy : ReviewActionPolicy}
    {result : ReviewActionResult}
    (run : applyReviewAction candidate command acceptedAtUtc receipt policy = .ok result) :
    result.decision.val.reviewChannel = command.val.reviewChannel ∧
      result.decision.val.presentationReceiptId = command.val.presentationReceiptId ∧
      result.decision.val.candidateId = candidate.val.candidateId ∧
      result.decision.val.acceptedAtUtc = acceptedAtUtc ∧
      command.val.expectedCandidateEvidence = CandidateEvidenceIdentity.fromCandidate candidate ∧
      validateReviewPresentation command receipt acceptedAtUtc =
        .ok result.decision.val.queueSnapshotDigest := by
  have expected := (applyReviewAction_identity run).2.1
  simp only [applyReviewAction] at run
  obtain ⟨_, _, run⟩ := Except.seq_returns.mp run
  obtain ⟨digest, presented, run⟩ := Except.seq_returns.mp run
  obtain ⟨_, _, run⟩ := Except.seq_returns.mp run
  obtain ⟨updated, _, run⟩ := Except.seq_returns.mp run
  obtain ⟨decision, made, run⟩ := Except.seq_returns.mp run
  obtain ⟨grant, _, run⟩ := Except.seq_returns.mp run
  obtain ⟨audit, _, run⟩ := Except.seq_returns.mp run
  cases run
  have fields := Checked.make_eq_ok.mp made
  simp only [fields]
  exact ⟨rfl, rfl, rfl, rfl, expected, presented⟩

omit [Sha256] in
/-- The receipt that a Workbench review passes shows its candidate and version within
the window. -/
theorem validateReviewPresentation_workbench {command : ReviewDecisionCommand}
    {receipt? : Option CandidatePresentationReceipt} {acceptedAtUtc : DateTime}
    {digest : Option String} (workbench : command.val.reviewChannel = .workbench)
    (run : validateReviewPresentation command receipt? acceptedAtUtc = .ok digest) :
    ∃ receipt, receipt? = some receipt ∧ digest = some receipt.val.queueSnapshotDigest ∧
      command.val.presentationReceiptId = some receipt.val.receiptId ∧
      firstFailure (workbenchPresentationChecks command.val.expectedCandidateEvidence receipt
        acceptedAtUtc) = none := by
  have notOperator : command.val.reviewChannel ≠ .operator := by
    rw [workbench]
    nofun
  unfold validateReviewPresentation at run
  rw [if_neg notOperator] at run
  cases receipt? with
  | none => cases run
  | some receipt =>
      obtain ⟨_, passed, run⟩ := Except.seq_returns.mp run
      cases run
      have checks := validate_eq_ok.mp passed
      simp only [firstFailure_cons, bne_eq_false_iff_eq] at checks
      exact ⟨receipt, rfl, rfl, checks.1, checks.2⟩

/-- A review command asks the repository for its key, and records the domain's decision
on the candidate and the receipts that it finds. -/
theorem reviewAction_state (s : IdeaRepository) (c : ApplyReviewActionToRepositoryCommand)
    (policy : ReviewActionPolicy) :
    ∃ next : IdeaRepository, next.candidateRecords = s.candidateRecords ∧
      next.presentationReceipts = s.presentationReceipts ∧
      (s.workflowStep (.reviewAction c policy) = next ∨
      ∃ record result, s.candidateRecords.get? c.val.candidateId = some record ∧
        next.reviewDecided record c policy = .ok result ∧
        s.workflowStep (.reviewAction c policy) =
          next.step (.mutate (.recordReviewAction (reviewRequest c result)))) := by
  simp only [IdeaRepository.workflowStep, IdeaRepository.applyReviewActionToRepository]
  split
  · exact ⟨s, rfl, rfl, Or.inl rfl⟩
  rename_i record stored
  split
  · exact ⟨s, rfl, rfl, Or.inl rfl⟩
  split
  · exact ⟨s, rfl, rfl, Or.inl rfl⟩
  rename_i tenantId _
  generalize PrecheckRequest.mk tenantId c.val.idempotencyKey (reviewPayload c)
    (reviewMutationIdentityFromCommand record.val.candidate c.val.review) = q
  have bound : KeyBound s (s.precheckReviewMutation q).2 := precheck_keyBound s q
  cases run : s.precheckReviewMutation q with
  | mk answer next =>
      rw [run] at bound
      refine ⟨next, bound.candidateRecords, bound.receipts, ?_⟩
      cases answer with
      | error raised => exact Or.inl rfl
      | ok prechecked =>
          cases prechecked with
          | some result => exact Or.inl rfl
          | none =>
              cases decided : next.reviewDecided record c policy with
              | error raised => exact Or.inl (by simp only [decided])
              | ok result =>
                  refine Or.inr ⟨record, result, stored, decided, ?_⟩
                  simp only [decided, IdeaRepository.step]
                  change _ = (next.recordReviewAction (reviewRequest c result)).2
                  simp only [reviewRequest]
                  split <;> simp only [*]

/-- The receipt of a decided Workbench review is stored for the candidate's tenant, and
the decision rests on it. -/
theorem reviewDecided_rests {s : IdeaRepository} {record : CandidatePersistenceRecord}
    {c : ApplyReviewActionToRepositoryCommand} {policy : ReviewActionPolicy}
    {result : ReviewActionResult}
    (stands : ∀ key receipt, s.presentationReceipts.get? key = some receipt →
      ReceiptStands s key receipt)
    (stored : s.candidateRecords.get? record.val.candidate.val.candidateId = some record)
    (decided : s.reviewDecided record c policy = .ok result)
    (workbench : result.decision.val.reviewChannel = .workbench) :
    ∃ scope receipt, record.val.candidate.val.accessScope = some scope ∧
      s.presentationReceipts.get? (presentationReceiptIdentity receipt) = some receipt ∧
      RestsOn scope.val.tenantId result.decision receipt := by
  simp only [IdeaRepository.reviewDecided] at decided
  obtain ⟨receipt?, looked, decided⟩ := Except.seq_returns.mp decided
  obtain ⟨channel, receiptId, candidateId, accepted, expected, presented⟩ :=
    applyReviewAction_presentation decided
  rw [channel] at workbench
  obtain ⟨receipt, given, snapshot, named, checks⟩ :=
    validateReviewPresentation_workbench workbench presented
  subst given
  -- the receipt was looked up under the tenant of the candidate
  simp only [IdeaRepository.reviewPresentationReceipt, if_pos workbench, named] at looked
  cases tenant : record.val.candidate.val.accessScope with
  | none =>
      rw [tenant] at looked
      cases looked
  | some scope =>
      rw [tenant] at looked
      simp only at looked
      split at looked
      · cases looked
      rename_i found lookup
      cases looked
      rw [IdeaRepository.presentationReceiptById, Option.filter_eq_some_iff] at lookup
      obtain ⟨held, matches_⟩ := lookup
      simp only [Bool.and_eq_true, decide_eq_true_eq] at matches_
      obtain ⟨ofCandidate, ofTenant⟩ := matches_
      have identity : presentationReceiptIdentity receipt =
          (scope.val.tenantId, receipt.val.receiptId) := by
        rw [presentationReceiptIdentity, ofTenant]
      obtain ⟨_, own, _, there, _, _, issued⟩ := stands _ _ held
      rw [ofCandidate, stored] at there
      cases there
      simp only [workbenchPresentationChecks, expected, firstFailure_cons, firstFailure_nil,
        bne_eq_false_iff_eq, decide_eq_false_iff_not, and_true] at checks
      obtain ⟨_, _, material, evidence, notLater, notEarlier⟩ := checks
      -- at the candidate's own version the receipt shows the candidate's evidence
      have shown : receipt.shown = record.shown := by
        apply issued.agrees
        simp only [CandidatePresentationReceipt.shown, material, evidence]
        rfl
      have decidedOn := (applyReviewAction_returns decided).2.2.1
      have same : receipt.shown = result.decision.candidateEvidence.shown := by
        rw [shown, CandidatePersistenceRecord.shown, decidedOn]
      simp only [CandidatePresentationReceipt.shown, CandidateEvidenceIdentity.shown,
        ShownEvidence.mk.injEq] at same
      obtain ⟨version, digest, posture⟩ := same
      refine ⟨scope, receipt, rfl, by rw [identity, held], ?_⟩
      exact
        { receiptId := receiptId.trans named
          candidateId := ofCandidate.trans candidateId.symm
          tenantId := ofTenant
          materialVersion := congrArg (fun v => (ofLex v).1) version
          evidenceVersion := congrArg (fun v => (ofLex v).2) version
          revisionDigest := digest
          cutPosture := posture
          snapshotDigest := snapshot
          opened := by
            rw [accepted, DateTime.le_def]
            rw [DateTime.lt_def] at notLater
            omega
          open_ := by
            rw [accepted, DateTime.le_def]
            rw [DateTime.lt_def] at notEarlier
            simp only [DateTime.shift] at notEarlier ⊢
            omega }

/-- A review that was decided on its receipt keeps every decision on one. -/
theorem stand_after_review {s : IdeaRepository} (stand : PresentationsStand s)
    {record : CandidatePersistenceRecord} {c : ApplyReviewActionToRepositoryCommand}
    {policy : ReviewActionPolicy} {result : ReviewActionResult}
    (found : s.candidateRecords.get? c.val.candidateId = some record)
    (decided : s.reviewDecided record c policy = .ok result) :
    PresentationsStand (s.step (.mutate (.recordReviewAction (reviewRequest c result)))) := by
  have ran := decided
  simp only [IdeaRepository.reviewDecided] at ran
  obtain ⟨receipt, _, ran⟩ := Except.seq_returns.mp ran
  have governed : RepositoryCall.Governed
      (.mutate (.recordReviewAction (reviewRequest c result))) := ⟨_, _, _, _, _, ran⟩
  have named := stand.keyed _ _ found
  have keptReceipts : ∀ key receipt, s.presentationReceipts.get? key = some receipt →
      (s.step (.mutate (.recordReviewAction (reviewRequest c result)))).presentationReceipts.get?
        key = some receipt := fun key receipt stored => step_keeps_presentation _ stored
  refine ⟨keyed_after_step stand.keyed governed,
    receiptStands_after_step stand.keyed governed stand.receipts, ?_⟩
  intro id updated stored decision member workbench
  rcases step_record stand.keyed (.mutate (.recordReviewAction (reviewRequest c result))) id
    with same | ⟨new, now, step⟩
  · rw [same] at stored
    exact decisionsRest_kept keptReceipts rfl (stand.decisions id updated stored) member workbench
  · rw [now] at stored
    cases stored
    cases before : s.candidateRecords.get? id with
    | none =>
        rw [before] at step
        cases step with
        | created q isPersist => cases isPersist
    | some old =>
        rw [before] at step
        have scope := step.accessScope governed
        have earlier := stand.decisions id old before
        have kept (held : decision ∈ old.val.reviewDecisions) :=
          decisionsRest_kept keptReceipts scope earlier held workbench
        cases step with
        | reconciled _ _ _ _ decisions _ => exact kept (decisions ▸ member)
        | transitioned _ _ _ _ decisions _ => exact kept (decisions ▸ member)
        | converted _ _ _ _ _ _ _ _ decisions _ => exact kept (decisions ▸ member)
        | annotated _ _ decisions _ => exact kept (decisions ▸ member)
        | reviewed q isReview source candidate _ decisions _ =>
            cases isReview
            rw [decisions, List.mem_append, List.mem_singleton] at member
            rcases member with held | rfl
            · exact kept held
            -- the candidate decided on is the stored one
            have origin : result.sourceCandidate = record.val.candidate :=
              (applyReviewAction_returns ran).1
            have equal : old.val.candidate.equals record.val.candidate = true := by
              rw [← origin]
              exact source
            have sameId := IdeaCandidate.candidateId_of_equals equal
            rw [named, stand.keyed _ _ before] at sameId
            have same : old = record := by
              rw [sameId, found] at before
              exact (Option.some.inj before).symm
            subst same
            obtain ⟨own, receipt, tenant, there, rests⟩ :=
              reviewDecided_rests stand.receipts (by rw [named, found]) decided workbench
            refine ⟨?_, own, receipt, by rw [scope, tenant], keptReceipts _ _ there, rests⟩
            have own := (applyReviewAction_presentation ran).2.2.1
            rw [named] at own
            exact own.trans sameId.symm

/-- Repository calls stand for themselves, and reviews come through their workflow. -/
def WorkflowCall.Presented : WorkflowCall → Prop
  | .repository c => c.Governed ∧ c.isReview = false
  | _ => True

theorem IssuedBy.not_review {w : WorkflowCall} {c : RepositoryCall} (issued : IssuedBy w c)
    (presented : w.Presented) (other : ∀ command policy, w ≠ .reviewAction command policy) :
    c.Governed ∧ c.isReview = false := by
  have governed : w.Governed := by
    cases w with
    | repository c => exact presented.1
    | reviewAction | feedback | lifecycle | conversionIntent | conversionOutcome
    | reportEvidencePack => trivial
  refine ⟨issued.governed governed, ?_⟩
  cases issued with
  | reviewPrecheck command policy => exact absurd rfl (other command policy)
  | review command policy => exact absurd rfl (other command policy)
  | repository c => exact presented.2
  | feedbackPrecheck | feedback | lifecycle | conversionIntent | outcomePrecheck
  | conversionOutcome | reportEvidencePack => rfl

theorem stand_after_workflow {s : IdeaRepository} (stand : PresentationsStand s)
    {w : WorkflowCall} (presented : w.Presented) : PresentationsStand (s.workflowStep w) := by
  have others (other : ∀ command policy, w ≠ .reviewAction command policy) :
      PresentationsStand (s.workflowStep w) := by
    obtain ⟨calls, same, issued⟩ := s.workflow_reaches w
    rw [same]
    exact Runs.invariant IdeaRepository.step (fun c => c.Governed ∧ c.isReview = false)
      PresentationsStand (fun _ _ admitted stand => stand_after_step stand admitted.1 admitted.2)
      stand fun c member => (issued c member).not_review presented other
  cases w with
  | reviewAction command policy =>
      obtain ⟨next, records, receipts, moved⟩ := reviewAction_state s command policy
      have there : PresentationsStand next := by
        refine ⟨?_, ?_, ?_⟩
        · intro id record stored
          rw [records] at stored
          exact stand.keyed id record stored
        · intro key receipt stored
          rw [receipts] at stored
          obtain ⟨identity, record, scope, found, rest⟩ := stand.receipts key receipt stored
          exact ⟨identity, record, scope, by rw [records, found], rest⟩
        · intro id record stored
          rw [records] at stored
          have rest := stand.decisions id record stored
          intro decision member workbench
          exact decisionsRest_kept (fun key receipt stored => by rw [receipts, stored]) rfl rest
            member workbench
      rcases moved with same | ⟨record, result, stored, decided, same⟩
      · rw [same]
        exact there
      · rw [same]
        exact stand_after_review there (by rw [records, stored]) decided
  | feedback | lifecycle | conversionIntent | conversionOutcome | reportEvidencePack
  | repository =>
      apply others
      intro command policy same
      cases same

/-- In every run of the application each Workbench decision rests on an accepted
receipt. -/
theorem presentationsStand {calls : List WorkflowCall} (presented : ∀ w ∈ calls, w.Presented) :
    PresentationsStand (IdeaRepository.empty.workflowRun calls) :=
  Runs.invariant IdeaRepository.workflowStep WorkflowCall.Presented PresentationsStand
    (fun _ _ admitted stand => stand_after_workflow stand admitted) presentationsStand_empty
    presented

theorem workflow_keeps_presentation {s : IdeaRepository} {calls : List WorkflowCall}
    {key : String × String} {receipt : CandidatePresentationReceipt}
    (stored : s.presentationReceipts.get? key = some receipt) :
    (s.workflowRun calls).presentationReceipts.get? key = some receipt := by
  refine Runs.invariant IdeaRepository.workflowStep (fun _ => True)
    (fun s => s.presentationReceipts.get? key = some receipt) ?_ stored fun _ _ => trivial
  intro s w _ held
  obtain ⟨calls, same, _⟩ := s.workflow_reaches w
  rw [same]
  exact run_keeps_presentation held

/-- Presentation receipts in both stores.  Where the tables hold what the memory holds,
they make the same of a receipt exactly when it is in time and fits their columns, or
is late and repeats a stored claim or names a stored candidate under a new identity;
and then they hold the same afterwards.  No run changes an accepted receipt in either
store, and in every run of the application each decision that claims the Workbench
rests on an accepted receipt of its candidate, versions, digests and tenant, within
the review window. -/
theorem presentation_receipts_agree_iff :
    (∀ (t : PresentationTables) (s : IdeaRepository) (receipt : CandidatePresentationReceipt),
      t.Holds s →
      (t.presentationDisposition receipt = s.presentationDisposition receipt ↔
        s.PresentsAlike receipt) ∧
      (s.PresentsAlike receipt →
        (t.recordPresentationReceipt receipt).2.Holds (s.recordPresentationReceipt receipt).2)) ∧
    (∀ (s : IdeaRepository) (calls : List WorkflowCall) key receipt,
      s.presentationReceipts.get? key = some receipt →
      (s.workflowRun calls).presentationReceipts.get? key = some receipt) ∧
    (∀ (t : PresentationTables) (calls : List PresentationCall) key row,
      t.receipts.rows.get? key = some row → (t.run calls).receipts.rows.get? key = some row) ∧
    ∀ calls : List WorkflowCall, (∀ w ∈ calls, w.Presented) → ∀ id record,
      (IdeaRepository.empty.workflowRun calls).candidateRecords.get? id = some record →
      DecisionsRest (IdeaRepository.empty.workflowRun calls) id record := by
  refine ⟨?_, ?_, ?_, ?_⟩
  · intro t s receipt holds
    have agree : t.presentationDisposition receipt = s.presentationDisposition receipt ↔
        s.PresentsAlike receipt := presentsAlike_iff holds
    exact ⟨agree, fun alike => holds_after holds (agree.mpr alike)⟩
  · intro s calls key receipt stored
    exact workflow_keeps_presentation stored
  · intro t calls key row stored
    exact PresentationTables.run_keeps_receipt calls stored
  · intro calls presented id record stored
    exact (presentationsStand presented).decisions id record stored

/-! ## A late conflict -/

def sampleReceiptFields (rank acceptedAt : Int) : CandidatePresentationReceiptFields where
  receiptId := "receipt-1"
  candidateId := "idea-1"
  tenantId := "tenant-a"
  presentedAtUtc := .utc 20
  rankAtPresentation := rank
  visibleCandidateCount := 5
  queueSnapshotDigest := sampleDigest 'f'
  queuePolicyVersion := "queue-v1"
  rankingPolicyVersion := "ranking-v1"
  candidateMaterialVersion := 1
  candidateEvidenceVersion := 1
  sourceRevisionVectorDigest := some sampleEvidencePacket.sourceRevisionVectorDigest
  sourceCutPosture := sampleEvidencePacket.sourceCutPosture
  acceptedAtUtc := .utc acceptedAt

end

section Sample

local instance presentedSha256 : Sha256 := Sha256.zeros

/-- The receipt of a presentation at rank two. -/
def samplePresentation : CandidatePresentationReceipt :=
  ⟨sampleReceiptFields 2 30, by decide +kernel⟩

/-- The same identity an hour later, at rank three. -/
def sampleLatePresentation : CandidatePresentationReceipt :=
  ⟨sampleReceiptFields 3 (30 + hours 1), by decide +kernel⟩

/-- A candidate is persisted and its presentation recorded. -/
def samplePresented : List WorkflowCall :=
  [.repository (samplePersist "persist-1" false 10),
   .repository (.recordPresentation samplePresentation)]

theorem samplePresented_presented : ∀ w ∈ samplePresented, w.Presented := by
  intro w member
  simp only [samplePresented, List.mem_cons, List.not_mem_nil, or_false] at member
  rcases member with rfl | rfl <;> exact ⟨trivial, rfl⟩

set_option maxRecDepth 10000 in
theorem samplePresented_stored :
    (IdeaRepository.empty.workflowRun samplePresented).presentationReceipts.get?
      ("tenant-a", "receipt-1") = some samplePresentation := by
  decide +kernel

/-- In memory the later receipt conflicts with the stored one; the tables refuse it for
its time. -/
theorem late_conflict_answered_apart : ∃ t : PresentationTables,
    t.Holds (IdeaRepository.empty.workflowRun samplePresented) ∧
    (IdeaRepository.empty.workflowRun samplePresented).presentationDisposition
      sampleLatePresentation = .answered ⟨.conflict, some samplePresentation⟩ ∧
    t.presentationDisposition sampleLatePresentation = .skewed := by
  have stand := presentationsStand samplePresented_presented
  have identities : ∀ key receipt,
      (IdeaRepository.empty.workflowRun samplePresented).presentationReceipts.get? key =
        some receipt → presentationReceiptIdentity receipt = key :=
    fun key receipt stored => (stand.receipts key receipt stored).identity
  have holds := PresentationTables.ofRepository_holds _ identities
  have stored : (IdeaRepository.empty.workflowRun samplePresented).presentationReceipts.get?
      (presentationReceiptIdentity sampleLatePresentation) = some samplePresentation :=
    samplePresented_stored
  have late : sampleLatePresentation.skewed = true := by decide +kernel
  have differs : samplePresentation.hasSameProducerClaim sampleLatePresentation = false := by
    decide +kernel
  refine ⟨_, holds, ?_, ?_⟩
  · have same : samplePresentation.val.candidateId = sampleLatePresentation.val.candidateId := rfl
    rw [memory_stored stored rfl, if_pos same, PresentationTables.storedAnswer, differs]
    rfl
  · rw [tables_skewed holds late, stored]
    simp only [differs, Bool.false_eq_true, if_false]

def sampleAdvisor : ReviewActorContext where
  val := { sampleOperator.val with actorSubject := "advisor-1", role := .advisor }
  valid := by decide

def sampleWorkbenchReview : ReviewDecisionCommand where
  val :=
    { reviewId := "review-1", action := .approveForConversion, actor := sampleAdvisor
      reasonCodes := [.highCashRatio], decidedAtUtc := .utc 40
      expectedCandidateEvidence := CandidateEvidenceIdentity.fromCandidate (sampleCandidate false)
      reviewChannel := .workbench, presentationReceiptId := some "receipt-1" }
  valid := by decide +kernel

def sampleWorkbenchCommand : ApplyReviewActionToRepositoryCommand where
  val :=
    { candidateId := "idea-1", review := sampleWorkbenchReview, idempotencyKey := "review-key-1"
      acceptedAtUtc := .utc 40, eventLineage := some sampleLineage }
  valid := by decide +kernel

/-- The presented candidate is approved from the Workbench. -/
def sampleWorkbench : List WorkflowCall :=
  samplePresented ++ [.reviewAction sampleWorkbenchCommand defaultReviewActionPolicy]

set_option maxRecDepth 10000 in
theorem sampleWorkbench_decided :
    ((IdeaRepository.empty.workflowRun sampleWorkbench).candidateRecords.get? "idea-1").any
      (fun record => record.val.reviewDecisions.any fun decision =>
        decision.val.reviewChannel = .workbench) = true := by
  decide +kernel

/-- The approval rests on the receipt, which no later call changes. -/
theorem presentation_receipts_agree_iff_sample : ∃ record decision, ∃ scope : ReviewAccessScope, ∃ receipt,
    (IdeaRepository.empty.workflowRun sampleWorkbench).candidateRecords.get? "idea-1" =
      some record ∧
    decision ∈ record.val.reviewDecisions ∧ decision.val.reviewChannel = .workbench ∧
    RestsOn scope.val.tenantId decision receipt ∧
    ∀ calls : List WorkflowCall,
      ((IdeaRepository.empty.workflowRun sampleWorkbench).workflowRun
        calls).presentationReceipts.get? (presentationReceiptIdentity receipt) = some receipt := by
  have presented : ∀ w ∈ sampleWorkbench, w.Presented := by
    intro w member
    rcases List.mem_append.mp member with early | late
    · exact samplePresented_presented w early
    · rw [List.mem_singleton.mp late]
      trivial
  obtain ⟨record, stored, decided⟩ := (Option.any_eq_true _ _).mp sampleWorkbench_decided
  obtain ⟨decision, member, workbench⟩ := List.any_eq_true.mp decided
  obtain ⟨_, kept, _, rests⟩ := presentation_receipts_agree_iff
  obtain ⟨_, scope, receipt, _, held, rest⟩ :=
    rests sampleWorkbench presented "idea-1" record stored decision member
      (of_decide_eq_true workbench)
  exact ⟨record, decision, scope, receipt, stored, member, of_decide_eq_true workbench, rest,
    fun calls => kept _ calls _ receipt held⟩

end Sample

end LotusIdea

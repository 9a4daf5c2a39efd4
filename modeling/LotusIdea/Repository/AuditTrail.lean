import LotusIdea.Repository.Writes

/-!
# The audit trail of a record

Every write of a candidate record appends one audit event.  A lifecycle
transition is told by its event alone, which names the transition in an
attribute; every other event names none.
-/

set_option autoImplicit false

namespace LotusIdea

open IdeaRepository (PersistRequest LifecycleRequest ResultRequest TransitionRequest LineageRequest)

def lifecycleTransitionAuditEvent : String := "idea.lifecycle.transitioned"

/-- The transition that an audit event names. -/
def AuditEvent.transitionNamed (e : AuditEvent) : Option String :=
  if e.val.eventType = lifecycleTransitionAuditEvent then e.attribute? "transition_id" else none

/-! ## The events of the domain -/

theorem transitionNamed_created {fields : AuditEventFields} {event : AuditEvent}
    (other : fields.eventType ≠ lifecycleTransitionAuditEvent)
    (made : AuditEvent.create fields = .ok event) : event.transitionNamed = none := by
  rw [AuditEvent.transitionNamed, Checked.make_eq_ok.mp made, if_neg other]

theorem reviewAuditEvent_anonymous {d : GovernedReviewDecision} {before after : IdeaCandidate}
    {event : AuditEvent} (made : reviewAuditEvent d before after = .ok event) :
    event.transitionNamed = none :=
  transitionNamed_created (by simp [lifecycleTransitionAuditEvent]) made

theorem recordFeedback_anonymous {candidate : IdeaCandidate} {command : FeedbackCommand}
    {acceptedAtUtc : DateTime} {policy : ReviewActionPolicy} {result : FeedbackResult}
    (run : recordFeedback candidate command acceptedAtUtc policy = .ok result) :
    result.auditEvent.transitionNamed = none := by
  simp only [recordFeedback] at run
  obtain ⟨_, _, run⟩ := Except.seq_returns.mp run
  obtain ⟨feedback, _, run⟩ := Except.seq_returns.mp run
  obtain ⟨feedbackEvent, _, run⟩ := Except.seq_returns.mp run
  obtain ⟨auditEvent, made, run⟩ := Except.seq_returns.mp run
  cases run
  exact transitionNamed_created (by simp [lifecycleTransitionAuditEvent]) made

theorem recordConversionOutcome_anonymous {governedIntent : GovernedConversionIntent}
    {command : ConversionOutcomeCommand} {acceptedAtUtc : DateTime}
    {existingOutcomes : List GovernedConversionOutcome} {result : ConversionOutcomeResult}
    (run : recordConversionOutcome governedIntent command acceptedAtUtc existingOutcomes =
      .ok result) : result.auditEvent.transitionNamed = none := by
  simp only [recordConversionOutcome] at run
  obtain ⟨_, _, run⟩ := Except.seq_returns.mp run
  obtain ⟨outcome, _, run⟩ := Except.seq_returns.mp run
  obtain ⟨governed, _, run⟩ := Except.seq_returns.mp run
  split at run
  · cases run
  obtain ⟨auditEvent, made, run⟩ := Except.seq_returns.mp run
  cases run
  exact transitionNamed_created (by simp [lifecycleTransitionAuditEvent]) made

theorem requestReportEvidencePack_anonymous {candidate : IdeaCandidate}
    {conversionIntent : GovernedConversionIntent} {command : ReportEvidencePackCommand}
    {result : ReportEvidencePackResult}
    (run : requestReportEvidencePack candidate conversionIntent command = .ok result) :
    result.auditEvent.transitionNamed = none := by
  simp only [requestReportEvidencePack] at run
  obtain ⟨_, _, run⟩ := Except.seq_returns.mp run
  obtain ⟨pack, _, run⟩ := Except.seq_returns.mp run
  obtain ⟨auditEvent, made, run⟩ := Except.seq_returns.mp run
  cases run
  exact transitionNamed_created (by simp [lifecycleTransitionAuditEvent]) made

section
variable [Sha256]

theorem applyReviewAction_anonymous {candidate : IdeaCandidate} {command : ReviewDecisionCommand}
    {acceptedAtUtc : DateTime} {receipt : Option CandidatePresentationReceipt}
    {policy : ReviewActionPolicy} {result : ReviewActionResult}
    (run : applyReviewAction candidate command acceptedAtUtc receipt policy = .ok result) :
    result.auditEvent.transitionNamed = none := by
  simp only [applyReviewAction] at run
  obtain ⟨_, _, run⟩ := Except.seq_returns.mp run
  obtain ⟨digest, _, run⟩ := Except.seq_returns.mp run
  obtain ⟨_, _, run⟩ := Except.seq_returns.mp run
  obtain ⟨updated, _, run⟩ := Except.seq_returns.mp run
  obtain ⟨decision, _, run⟩ := Except.seq_returns.mp run
  obtain ⟨grant, _, run⟩ := Except.seq_returns.mp run
  obtain ⟨auditEvent, made, run⟩ := Except.seq_returns.mp run
  cases run
  exact reviewAuditEvent_anonymous made

theorem requestConversionIntent_anonymous {candidate : IdeaCandidate}
    {command : ConversionIntentCommand} {acceptedAtUtc : DateTime} {grant : ReviewAuthorityGrant}
    {result : ConversionIntentResult}
    (run : requestConversionIntent candidate command acceptedAtUtc grant = .ok result) :
    result.auditEvent.transitionNamed = none := by
  simp only [requestConversionIntent] at run
  obtain ⟨_, _, run⟩ := Except.seq_returns.mp run
  obtain ⟨_, _, run⟩ := Except.seq_returns.mp run
  obtain ⟨intent, _, run⟩ := Except.seq_returns.mp run
  obtain ⟨governed, _, run⟩ := Except.seq_returns.mp run
  obtain ⟨moved, _, run⟩ := Except.seq_returns.mp run
  obtain ⟨auditEvent, made, run⟩ := Except.seq_returns.mp run
  cases run
  exact transitionNamed_created (by simp [lifecycleTransitionAuditEvent]) made

end

/-! ## What a call appends -/

section
variable [Sha256]

/-- The audit event that a call brings along in the domain's result. -/
def RepositoryCall.carried : RepositoryCall → Option AuditEvent
  | .mutate (.recordReviewAction q) => some q.result.auditEvent
  | .mutate (.recordFeedbackEvent q) => some q.result.auditEvent
  | .mutate (.recordConversionIntent q) => some q.result.auditEvent
  | .mutate (.recordConversionOutcome q) => some q.result.auditEvent
  | .mutate (.recordReportEvidencePack q) => some q.result.auditEvent
  | .recordLineage q => some q.result.auditEvent
  | .recordLineageRequest q _ _ => some q.result.auditEvent
  | _ => none

/-- The audit events of the record of `id`, before and after a call. -/
inductive AuditAppended (s : IdeaRepository) (c : RepositoryCall) (id : String)
    (old : CandidatePersistenceRecord) : List AuditEvent → Prop where
  | same : AuditAppended s c id old old.val.auditEvents
  | transition (q : IdeaRepository.LifecycleRequest)
      (isCall : c = .mutate (.recordLifecycleTransition q))
      (target : q.candidateId = id) (scope : ReviewAccessScope)
      (tenant : old.val.candidate.val.accessScope = some scope)
      (unused : s.idempotencyRecords.get?
        (tenantStorageKey scope.val.tenantId q.idempotencyKey) = none)
      (event : AuditEvent) (named : event.transitionNamed = q.transitionId) :
      AuditAppended s c id old (old.val.auditEvents ++ [event])
  | carried (event : AuditEvent) (brought : c.carried = some event) :
      AuditAppended s c id old (old.val.auditEvents ++ [event])
  | unnamed (event : AuditEvent) (anonymous : event.transitionNamed = none) :
      AuditAppended s c id old (old.val.auditEvents ++ [event])

theorem transitionNamed_of_transitioned {old updated : CandidatePersistenceRecord}
    {targetStatus : IdeaLifecycleStatus} {actorSubject : String} {occurredAtUtc : DateTime}
    {event : AuditEvent} {attributes : List (String × String)}
    (moved : Transitioned old updated targetStatus actorSubject occurredAtUtc attributes event) :
    event.transitionNamed = attributes.lookup "transition_id" := by
  simp only [AuditEvent.transitionNamed, AuditEvent.attribute?, moved.event,
    lifecycleTransitionAuditEvent, if_true, List.cons_append, List.nil_append]
  rfl

/-- A stored candidate that is persisted again gains an event of its reconciliation. -/
theorem reconciled_audit {s : IdeaRepository} {q : PersistRequest} {m : AcceptedMutation}
    {old : CandidatePersistenceRecord} (run : s.persistPlan q = .ok (.accept m))
    (stored : s.candidateRecords.get? m.candidateId = some old) :
    ∃ event, m.record.val.auditEvents = old.val.auditEvents ++ [event] ∧
      event.transitionNamed = none := by
  simp only [IdeaRepository.persistPlan] at run
  obtain ⟨_, _, run⟩ := Except.seq_returns.mp run
  obtain ⟨scope, _, run⟩ := Except.seq_returns.mp run
  obtain ⟨_, _, run⟩ := Except.seq_returns.mp run
  obtain ⟨admission, _, run⟩ := Except.seq_returns.mp run
  cases admission with
  | answered result => cases run
  | fresh storageKey idempotencyRecord =>
      cases found : s.candidateRecords.get? q.candidate.val.candidateId with
      | none =>
          simp only [found, IdeaRepository.createPlan] at run
          obtain ⟨auditEvent, _, run⟩ := Except.seq_returns.mp run
          obtain ⟨entry, _, run⟩ := Except.seq_returns.mp run
          obtain ⟨record, _, run⟩ := Except.seq_returns.mp run
          cases run
          rw [found] at stored
          cases stored
      | some existing =>
          simp only [found, IdeaRepository.reconcilePlan] at run
          obtain ⟨reconciliation, reconciled, run⟩ := Except.seq_returns.mp run
          rcases reconcileCandidate_cases reconciled with
            rfl | rfl | ⟨next, held, same, later, accepting⟩
          · cases run
          · cases run
          · rcases accepting with decided | decided | decided
            all_goals
              simp only [decided, held, reduceCtorEq, if_false, IdeaRepository.reconciledPlan]
                at run
              obtain ⟨eventType, typed, run⟩ := Except.seq_returns.mp run
              obtain ⟨auditEvent, audited, run⟩ := Except.seq_returns.mp run
              obtain ⟨entry, _, run⟩ := Except.seq_returns.mp run
              obtain ⟨record, made, run⟩ := Except.seq_returns.mp run
              cases typed
              cases run
              rw [found] at stored
              cases stored
              refine ⟨auditEvent, by rw [Checked.make_eq_ok.mp made], ?_⟩
              rw [AuditEvent.transitionNamed, Checked.make_eq_ok.mp audited, if_neg]
              simp [lifecycleTransitionAuditEvent]

theorem lifecycle_target {s : IdeaRepository} {q : IdeaRepository.LifecycleRequest}
    {m : AcceptedMutation} (run : s.lifecyclePlan q = .ok (.accept m)) : m.candidateId = q.candidateId := by
  simp only [IdeaRepository.lifecyclePlan] at run
  obtain ⟨_, passed, run⟩ := Except.seq_returns.mp run
  have checks := validate_eq_ok.mp passed
  simp only [firstFailure_append, firstFailure_cons, requireText_passes] at checks
  obtain ⟨record, scope, stored, tenant, fresh, run⟩ := forRecord_accepts checks.1.1.2.1 run
  obtain ⟨⟨updated, auditEvent⟩, moved, run⟩ := Except.seq_returns.mp run
  cases run
  rfl

/-- The audit events of the record that an accepted mutation replaces. -/
theorem write_audits {s : IdeaRepository} {c : MutationCall} {m : AcceptedMutation}
    (planned : c.plan s = .ok (.accept m)) {old : CandidatePersistenceRecord}
    (stored : s.candidateRecords.get? m.candidateId = some old) :
    AuditAppended s (.mutate c) m.candidateId old m.record.val.auditEvents := by
  obtain ⟨writes, scope, binds⟩ := mutation_writes planned
  cases writes with
  | created q entry auditEvent _ absent =>
      rw [stored] at absent
      cases absent
  | reconciled q own =>
      obtain ⟨event, appended, anonymous⟩ := reconciled_audit planned stored
      rw [appended]
      exact .unnamed event anonymous
  | transitioned q own attributes held shape moved _ =>
      rw [stored] at held
      cases held
      have step := transitionRecord_moved moved
      obtain ⟨candidate, entry, _, record⟩ := step.record
      have target : q.candidateId = m.candidateId := (lifecycle_target planned).symm
      have tenant := binds.tenant
      simp only [scopedCandidate, stored, Option.getD_some] at tenant
      have unused := binds.fresh.unseen
      rw [binds.fresh.shape] at unused
      have named : m.auditEvent.transitionNamed = q.transitionId := by
        rw [transitionNamed_of_transitioned step, shape]
        cases q.transitionId <;> rfl
      rw [record]
      exact .transition q rfl target scope tenant unused m.auditEvent named
  | reviewed q own history _ held _ _ record _ | feedback q own _ held _ record _
  | converted q own history grant _ held _ _ _ record _ | outcome q own _ held _ _ record _
  | packed q own _ held record _ =>
      rw [stored] at held
      cases held
      rw [record]
      exact .carried _ rfl

/-- A record stays, and a call appends at most one audit event to it. -/
theorem step_audits {s : IdeaRepository} (keyed : s.Keyed) (c : RepositoryCall) {id : String}
    {old : CandidatePersistenceRecord} (stored : s.candidateRecords.get? id = some old) :
    ∃ new, (s.step c).candidateRecords.get? id = some new ∧
      AuditAppended s c id old new.val.auditEvents := by
  have elsewhere : ∀ {other : String} (record : CandidatePersistenceRecord), id ≠ other →
      ∃ new, (s.candidateRecords.set other record).get? id = some new ∧
        AuditAppended s c id old new.val.auditEvents := by
    intro other record different
    exact ⟨old, by rw [Dict.get?_set_of_ne _ different, stored], .same⟩
  have after := records_after_step keyed c
  generalize (s.step c).candidateRecords = records at after ⊢
  cases after with
  | same => exact ⟨old, stored, .same⟩
  | written call isCall m planned =>
      by_cases here : id = m.candidateId
      · subst here isCall
        exact ⟨m.record, Dict.get?_set_self _ _ _, write_audits planned stored⟩
      · exact elsewhere m.record here
  | moved q _ record updated auditEvent found moved =>
      by_cases here : id = q.candidateId
      · subst here
        rw [stored] at found
        cases found
        have step := transitionRecord_moved moved
        obtain ⟨candidate, entry, _, fields⟩ := step.record
        refine ⟨updated, Dict.get?_set_self _ _ _, ?_⟩
        rw [fields]
        refine .unnamed auditEvent ?_
        rw [transitionNamed_of_transitioned step]
        rfl
      · exact elsewhere updated here
  | explained q isCall lineage record updated accepted =>
      by_cases here : id = lineage.val.candidateId
      · subst here
        have held := accepted.stored
        rw [stored] at held
        cases held
        have brought : c.carried = some q.result.auditEvent := by
          rcases isCall with rfl | ⟨key, payload, rfl⟩ <;> rfl
        refine ⟨updated, Dict.get?_set_self _ _ _, ?_⟩
        rw [accepted.fields]
        exact .carried _ brought
      · exact elsewhere updated here

end

end LotusIdea

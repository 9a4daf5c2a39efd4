import LotusIdea.Application.WorkflowRuns
import LotusIdea.Foundation.ScopedText
import LotusIdea.Repository.AuditTrail
import LotusIdea.Repository.KeyBinding
import LotusIdea.Repository.RevokedAuthority

/-!
# Lifecycle transitions and their reports

An accepted lifecycle transition is kept as one audit event, whose attributes the
workflow reads back.  It reads what was submitted exactly when no reason code
contains the separator and no earlier event of the candidate names the transition.
-/

set_option autoImplicit false

namespace LotusIdea

open IdeaRepository (LifecycleRequest lifecycleRequest)

/-! ## Reading an audit event -/

theorem toList_comma : ",".toList = [','] := rfl

/-- Reason codes are read back from one text exactly when none contains a comma. -/
theorem splitCommas_join_iff {reasonCodes : List String} (filled : reasonCodes ≠ []) :
    splitCommas (String.intercalate "," reasonCodes) = reasonCodes ↔
      ∀ code ∈ reasonCodes, ',' ∉ code.toList := by
  have parts : reasonCodes.map String.toList ≠ [] := by simpa using filled
  have texts : (reasonCodes.map String.toList).map String.ofList = reasonCodes := by
    simp [List.map_map]
  have joined : splitCommas (String.intercalate "," reasonCodes) =
      ((([','].intercalate (reasonCodes.map String.toList)).splitOn ',').map String.ofList) := by
    rw [splitCommas, String.toList_intercalate, toList_comma]
  have injective : Function.Injective (List.map String.ofList) :=
    List.map_injective_iff.mpr fun _ _ same => String.ofList_injective same
  rw [joined]
  constructor
  · intro same
    rw [← texts] at same
    have split := injective same
    intro code member
    exact (ScopedText.splitOn_intercalate_iff ',' parts).mp (by simpa using split) _
      (List.mem_map_of_mem member)
  · intro absent
    have split := (ScopedText.splitOn_intercalate_iff ',' parts).mpr ?_
    · rw [split, texts]
    · intro part member
      obtain ⟨code, held, rfl⟩ := List.mem_map.mp member
      exact absent code held

theorem ofValue_value (status : IdeaLifecycleStatus) :
    IdeaLifecycleStatus.ofValue status.value = some status := by
  cases status <;> decide

theorem IdeaLifecycleStatus.value_injective : Function.Injective IdeaLifecycleStatus.value := by
  intro first second same
  have both := ofValue_value first
  rw [same, ofValue_value] at both
  exact (Option.some.inj both).symm

/-- The attributes that the repository keeps for the command. -/
def transitionAttributes (c : ApplyCandidateLifecycleTransitionCommand) :
    List (String × String) :=
  [("idempotency_decision", IdempotencyDecision.accepted.value),
   ("observed_at_utc", c.val.changedAtUtc.isoformat),
   ("reason_codes", String.intercalate "," c.val.reasonCodes),
   ("transition_id", c.val.transitionId)]

/-- The audit event of a transition that was accepted out of `source`. -/
structure TellsTransition (e : AuditEvent) (c : ApplyCandidateLifecycleTransitionCommand)
    (source : IdeaLifecycleStatus) (acceptedAtUtc : DateTime) : Prop where
  eventType : e.val.eventType = lifecycleTransitionAuditEvent
  outcome : e.val.outcome = "accepted"
  occurredAtUtc : e.val.occurredAtUtc = acceptedAtUtc
  attributes : e.val.attributes =
    [("source_status", source.value), ("target_status", c.val.targetStatus.value)] ++
      transitionAttributes c

/-- What is reported of a transition that was accepted at a time. -/
def reportOf (c : ApplyCandidateLifecycleTransitionCommand) (acceptedAtUtc : DateTime) :
    PersistedLifecycleTransition :=
  ⟨c.val.transitionId, c.val.candidateId, c.val.targetStatus, c.val.changedAtUtc, acceptedAtUtc,
    c.val.reasonCodes⟩

theorem reasonCodes_checked (c : ApplyCandidateLifecycleTransitionCommand) :
    c.val.reasonCodes ≠ [] ∧ c.val.reasonCodes.any PyText.isBlank = false := by
  have checks := c.valid
  simp only [ApplyCandidateLifecycleTransitionCommandFields.checks, firstFailure_append,
    firstFailure_cons] at checks
  exact ⟨by simpa using checks.1.2.2.2.2.1, checks.1.2.2.2.2.2.1⟩

section Reading
variable {c d : ApplyCandidateLifecycleTransitionCommand} {e : AuditEvent}
  {source : IdeaLifecycleStatus} {acceptedAtUtc : DateTime}

theorem namesTransition_iff :
    namesTransition c e = true ↔ e.transitionNamed = some c.val.transitionId := by
  simp only [namesTransition, AuditEvent.transitionNamed, lifecycleTransitionAuditEvent,
    Bool.and_eq_true, decide_eq_true_eq]
  by_cases typed : e.val.eventType = "idea.lifecycle.transitioned"
  · simp [typed]
  · simp [typed]

theorem TellsTransition.named (tells : TellsTransition e c source acceptedAtUtc) :
    namesTransition c e = true := by
  simp only [namesTransition, tells.eventType, AuditEvent.attribute?, tells.attributes,
    transitionAttributes, lifecycleTransitionAuditEvent]
  simp [List.lookup_cons]

theorem TellsTransition.source_status (tells : TellsTransition e c source acceptedAtUtc) :
    AuditEvent.attribute? e "source_status" = some source.value := by
  simp only [AuditEvent.attribute?, tells.attributes]
  rfl

/-- The event of a command tells its retries as well. -/
theorem TellsTransition.retry (tells : TellsTransition e c source acceptedAtUtc)
    (same : lifecyclePayload d = lifecyclePayload c) :
    TellsTransition e d source acceptedAtUtc := by
  simp only [lifecyclePayload, Json.obj.injEq, List.cons.injEq, Prod.mk.injEq, Json.str.injEq,
    Json.arr.injEq, true_and, and_true] at same
  obtain ⟨_, changed, codes, target, transition⟩ := same
  have codes : d.val.reasonCodes = c.val.reasonCodes :=
    List.map_injective_iff.mpr (fun _ _ equal => by simpa using equal) codes
  refine ⟨tells.eventType, tells.outcome, tells.occurredAtUtc, ?_⟩
  rw [tells.attributes]
  simp only [transitionAttributes, changed, codes, target, transition]

/-- The event is read back as it was submitted, unless a reason code has a comma. -/
theorem TellsTransition.read (tells : TellsTransition e c source acceptedAtUtc) :
    transitionFromAuditEvent e c =
      if ∀ code ∈ c.val.reasonCodes, ',' ∉ code.toList then some (reportOf c acceptedAtUtc)
      else none := by
  have sources : AuditEvent.attribute? e "source_status" = some source.value :=
    tells.source_status
  have targets : AuditEvent.attribute? e "target_status" = some c.val.targetStatus.value := by
    simp only [AuditEvent.attribute?, tells.attributes]
    rfl
  have codes : AuditEvent.attribute? e "reason_codes" =
      some (String.intercalate "," c.val.reasonCodes) := by
    simp only [AuditEvent.attribute?, tells.attributes]
    rfl
  have observed : AuditEvent.attribute? e "observed_at_utc" =
      some c.val.changedAtUtc.isoformat := by
    simp only [AuditEvent.attribute?, tells.attributes]
    rfl
  obtain ⟨filled, nonblank⟩ := reasonCodes_checked c
  have readable := splitCommas_join_iff filled
  by_cases absent : ∀ code ∈ c.val.reasonCodes, ',' ∉ code.toList
  · have same := readable.mpr absent
    simp only [transitionFromAuditEvent, tells.outcome, sources, targets, codes, observed,
      Option.bind_eq_bind, Option.bind_some, ofValue_value, same, nonblank, tells.occurredAtUtc,
      if_pos absent, reportOf]
    simp
  · have differ : splitCommas (String.intercalate "," c.val.reasonCodes) ≠ c.val.reasonCodes :=
      fun same => absent (readable.mp same)
    simp only [transitionFromAuditEvent, tells.outcome, sources, targets, codes, observed,
      Option.bind_eq_bind, Option.bind_some, ofValue_value, if_neg absent]
    simp [differ]

end Reading

/-! ## Reports -/

/-- The workflow returns the transition as it was submitted, read from the one event
of the stored record that names it, which tells the status it left as well. -/
def ReportedExactly (c : ApplyCandidateLifecycleTransitionCommand) (source : IdeaLifecycleStatus)
    (acceptedAtUtc : DateTime) (decision : PersistenceDecision)
    (answer : Except PyError (WorkflowResult PersistedLifecycleTransition)) : Prop :=
  ∃ persistence record event,
    answer = .ok ⟨some (reportOf c acceptedAtUtc), persistence⟩ ∧
      persistence.decision = decision ∧ persistence.record = some record ∧
      record.val.auditEvents.filter (namesTransition c) = [event] ∧
      AuditEvent.attribute? event "source_status" = some source.value

theorem requireSinglePersistedAction_returns {α : Type} {actions : List α} {action : α} :
    requireSinglePersistedAction actions = .ok action ↔ actions = [action] := by
  unfold requireSinglePersistedAction
  split
  · simp
  · rename_i several
    constructor
    · intro returned
      cases returned
    · intro single
      exact absurd single (several action)

section Reports
variable {c : ApplyCandidateLifecycleTransitionCommand} {persistence : PersistenceResult}
  {record : CandidatePersistenceRecord} {event : AuditEvent} {source : IdeaLifecycleStatus}
  {acceptedAtUtc : DateTime}

theorem persistedAction_of_record {α : Type} {candidateId missing : String}
    {found : CandidatePersistenceRecord → Except PyError α}
    (reports : persistence.decision.reportsAction = true)
    (held : persistence.record = some record)
    (own : record.val.candidate.val.candidateId = candidateId) :
    persistedAction persistence (some candidateId) missing found = (found record).map some := by
  simp only [persistedAction, reports, if_true, successfulRecord, held, Option.all_some, own,
    decide_true]
  change (found record >>= fun action => pure (some action)) = _
  cases found record with
  | error raised => rfl
  | ok action => rfl

theorem persistedLifecycleTransition_returns (reports : persistence.decision.reportsAction = true)
    (held : persistence.record = some record)
    (own : record.val.candidate.val.candidateId = c.val.candidateId)
    {answer : Option PersistedLifecycleTransition} :
    persistedLifecycleTransition c persistence = .ok answer ↔
      ∃ found transition, record.val.auditEvents.filter (namesTransition c) = [found] ∧
        transitionFromAuditEvent found c = some transition ∧ answer = some transition := by
  rw [persistedLifecycleTransition, persistedAction_of_record reports held own]
  constructor
  · intro run
    cases single : requireSinglePersistedAction
        (record.val.auditEvents.filter (namesTransition c)) with
    | error raised =>
        rw [single] at run
        cases run
    | ok found =>
        rw [single] at run
        cases read : transitionFromAuditEvent found c with
        | none =>
            simp only [bind, Except.bind, read] at run
            cases run
        | some transition =>
            simp only [bind, Except.bind, read] at run
            cases run
            exact ⟨found, transition, requireSinglePersistedAction_returns.mp single, read, rfl⟩
  · rintro ⟨found, transition, single, read, rfl⟩
    rw [requireSinglePersistedAction_returns.mpr single]
    simp only [bind, Except.bind, read]
    rfl

/-- A successful answer is reported exactly when the event is the only one of its
record to name the transition and no reason code has a comma. -/
theorem reportedExactly_iff (persistence : PersistenceResult)
    (reports : persistence.decision.reportsAction = true)
    (held : persistence.record = some record)
    (own : record.val.candidate.val.candidateId = c.val.candidateId)
    (member : event ∈ record.val.auditEvents) (tells : TellsTransition event c source acceptedAtUtc) :
    ReportedExactly c source acceptedAtUtc persistence.decision
        (IdeaRepository.lifecycleWorkflowResult c persistence) ↔
      record.val.auditEvents.filter (namesTransition c) = [event] ∧
        ∀ code ∈ c.val.reasonCodes, ',' ∉ code.toList := by
  have selected : event ∈ record.val.auditEvents.filter (namesTransition c) :=
    List.mem_filter.mpr ⟨member, tells.named⟩
  constructor
  · rintro ⟨answered, stored, found, run, _, kept, single, left⟩
    obtain ⟨transition, reported, same⟩ := Except.seq_returns.mp run
    cases same
    rw [held] at kept
    cases kept
    rw [single, List.mem_singleton] at selected
    subst selected
    refine ⟨single, ?_⟩
    by_contra comma
    obtain ⟨other, read, only, readable, _⟩ :=
      (persistedLifecycleTransition_returns reports held own).mp reported
    rw [single] at only
    cases only
    rw [tells.read, if_neg comma] at readable
    cases readable
  · rintro ⟨single, absent⟩
    refine ⟨persistence, record, event, ?_, rfl, held, single, tells.source_status⟩
    have read : transitionFromAuditEvent event c = some (reportOf c acceptedAtUtc) := by
      rw [tells.read, if_pos absent]
    have reported := (persistedLifecycleTransition_returns reports held own).mpr
      ⟨event, _, single, read, rfl⟩
    rw [IdeaRepository.lifecycleWorkflowResult, reported]
    rfl

end Reports

/-! ## The accepted transition -/

section
variable [Sha256]

/-- What an accepted lifecycle command leaves behind. -/
structure TransitionAccepted (c : ApplyCandidateLifecycleTransitionCommand)
    (old : CandidatePersistenceRecord) (persistence : PersistenceResult) (final : IdeaRepository)
    (scope : ReviewAccessScope) (updated : CandidatePersistenceRecord) (event : AuditEvent) :
    Prop where
  tenant : old.val.candidate.val.accessScope = some scope
  kept : updated.val.candidate.val.accessScope = some scope
  own : updated.val.candidate.val.candidateId = c.val.candidateId
  appended : updated.val.auditEvents = old.val.auditEvents ++ [event]
  tells : TellsTransition event c old.val.candidate.val.lifecycleStatus c.val.acceptedAtUtc
  answered : persistence = ⟨.accepted, some updated, some event⟩
  stored : final.candidateRecords.get? c.val.candidateId = some updated
  bound : final.idempotencyRecords.get?
    (tenantStorageKey scope.val.tenantId c.val.idempotencyKey) =
      some (keyRecord c.val.idempotencyKey (lifecyclePayload c))
  candidate : final.idempotencyCandidates.get?
    (tenantStorageKey scope.val.tenantId c.val.idempotencyKey) = some c.val.candidateId

theorem lifecycle_accepted {s : IdeaRepository} (keyed : s.Keyed)
    {c : ApplyCandidateLifecycleTransitionCommand} {old : CandidatePersistenceRecord}
    (stored : s.candidateRecords.get? c.val.candidateId = some old)
    {persistence : PersistenceResult} {final : IdeaRepository}
    (run : s.recordLifecycleTransition (lifecycleRequest c) = (.ok persistence, final))
    (accepted : persistence.decision = .accepted) :
    ∃ scope updated event, TransitionAccepted c old persistence final scope updated event := by
  have effect := mutate_effect s (.recordLifecycleTransition (lifecycleRequest c))
  have same : s.mutate (.recordLifecycleTransition (lifecycleRequest c)) =
      (.ok persistence, final) := run
  rw [same] at effect
  cases effect with
  | answered result refuses =>
      rw [accepted] at refuses
      cases refuses
  | bound result storageKey record candidateId refuses =>
      rw [accepted] at refuses
      cases refuses
  | written m planned sound event built =>
      have plan : s.lifecyclePlan (lifecycleRequest c) = .ok (.accept m) := planned
      simp only [IdeaRepository.lifecyclePlan] at plan
      obtain ⟨_, passed, plan⟩ := Except.seq_returns.mp plan
      have checks := validate_eq_ok.mp passed
      simp only [firstFailure_append, firstFailure_cons, requireText_passes] at checks
      obtain ⟨record, scope, held, tenant, fresh, plan⟩ :=
        forRecord_accepts checks.1.1.2.1 plan
      obtain ⟨⟨updated, auditEvent⟩, moved, plan⟩ := Except.seq_returns.mp plan
      cases plan
      have target : s.candidateRecords.get? c.val.candidateId = some record := held
      rw [stored] at target
      cases target
      have step := transitionRecord_moved moved
      obtain ⟨candidate, entry, transitioned, fields⟩ := step.record
      have evidence := transitionCandidate_sameEvidence transitioned
      have named := keyed _ _ stored
      refine ⟨scope, updated, auditEvent, tenant, ?_, ?_, ?_, ?_, rfl, ?_, ?_, ?_⟩
      · rw [fields, evidence.accessScope, tenant]
      · rw [fields, evidence.candidateId, named]
      · rw [fields]
      · exact ⟨by rw [step.event]; rfl, by rw [step.event], by rw [step.event]; rfl,
          by rw [step.event]; rfl⟩
      · simp only [IdeaRepository.appendEvent, IdeaRepository.write, named, Dict.get?_set_self]
      · simp only [IdeaRepository.appendEvent, IdeaRepository.write,
          IdeaRepository.bindIdempotency]
        exact Dict.get?_set_self _ _ _
      · simp only [IdeaRepository.appendEvent, IdeaRepository.write,
          IdeaRepository.bindIdempotency]
        exact Dict.get?_set_self _ _ _

/-! ## Later calls -/

/-- A call that would name the transition of `c` again on its candidate. -/
def RepositoryCall.NamesAgain (c : ApplyCandidateLifecycleTransitionCommand)
    (call : RepositoryCall) : Prop :=
  (∃ q, call = .mutate (.recordLifecycleTransition q) ∧ q.candidateId = c.val.candidateId ∧
    q.transitionId = some c.val.transitionId ∧ q.idempotencyKey ≠ c.val.idempotencyKey) ∨
  ∃ e, call.carried = some e ∧ e.transitionNamed = some c.val.transitionId

/-- A command that would: a transition of the candidate under the id of `c` and
another key. -/
def WorkflowCall.NamesAgain (c : ApplyCandidateLifecycleTransitionCommand) : WorkflowCall → Prop
  | .lifecycle d => d.val.candidateId = c.val.candidateId ∧
      d.val.transitionId = c.val.transitionId ∧ d.val.idempotencyKey ≠ c.val.idempotencyKey
  | .repository call => call.NamesAgain c
  | _ => False

/-- The other workflows carry events of the domain, which name no transition. -/
theorem IssuedBy.namesAgain {c : ApplyCandidateLifecycleTransitionCommand} {w : WorkflowCall}
    {call : RepositoryCall} (issued : IssuedBy w call) (again : call.NamesAgain c) :
    w.NamesAgain c := by
  have nameless : ∀ {e : AuditEvent}, call.carried = some e → e.transitionNamed = none →
      (∀ q, call ≠ .mutate (.recordLifecycleTransition q)) → False := by
    intro e brought anonymous other
    rcases again with ⟨q, isCall, _⟩ | ⟨e', brought', named⟩
    · exact other q isCall
    · rw [brought] at brought'
      cases brought'
      rw [anonymous] at named
      cases named
  have silent : call.carried = none → (∀ q, call ≠ .mutate (.recordLifecycleTransition q)) →
      False := by
    intro nothing other
    rcases again with ⟨q, isCall, _⟩ | ⟨e, brought, _⟩
    · exact other q isCall
    · rw [nothing] at brought
      cases brought
  cases issued with
  | lifecycle d =>
      rcases again with ⟨q, isCall, candidate, transition, key⟩ | ⟨e, brought, _⟩
      · cases isCall
        exact ⟨candidate, Option.some.inj transition, key⟩
      · cases brought
  | repository call => exact again
  | reviewPrecheck d policy q | feedbackPrecheck d policy q | outcomePrecheck d q =>
      exact (silent rfl (by simp)).elim
  | review d policy candidate receipt result decided =>
      exact (nameless rfl (applyReviewAction_anonymous decided) (by simp)).elim
  | feedback d policy candidate result decided =>
      exact (nameless rfl (recordFeedback_anonymous decided) (by simp)).elim
  | conversionIntent d candidate grant result decided =>
      exact (nameless rfl (requestConversionIntent_anonymous decided) (by simp)).elim
  | conversionOutcome d intent existing result decided =>
      exact (nameless rfl (recordConversionOutcome_anonymous decided) (by simp)).elim
  | reportEvidencePack d candidate intent result decided =>
      exact (nameless rfl (requestReportEvidencePack_anonymous decided) (by simp)).elim

/-- The transition of `c` is told by one event of its candidate, and its key is bound. -/
structure TransitionHeld (c : ApplyCandidateLifecycleTransitionCommand)
    (scope : ReviewAccessScope) (event : AuditEvent) (s : IdeaRepository) : Prop where
  record : ∃ record, s.candidateRecords.get? c.val.candidateId = some record ∧
    record.val.candidate.val.accessScope = some scope ∧
    record.val.auditEvents.filter (namesTransition c) = [event]
  bound : s.idempotencyRecords.get? (tenantStorageKey scope.val.tenantId c.val.idempotencyKey) =
    some (keyRecord c.val.idempotencyKey (lifecyclePayload c))
  candidate : s.idempotencyCandidates.get?
    (tenantStorageKey scope.val.tenantId c.val.idempotencyKey) = some c.val.candidateId

section Later
variable {c : ApplyCandidateLifecycleTransitionCommand} {scope : ReviewAccessScope}
  {event : AuditEvent} {s : IdeaRepository}

theorem TransitionHeld.after_step (held : TransitionHeld c scope event s) (keyed : s.Keyed)
    {call : RepositoryCall} (governed : call.Governed) (once : ¬ call.NamesAgain c) :
    TransitionHeld c scope event (s.step call) := by
  obtain ⟨old, stored, tenant, single⟩ := held.record
  obtain ⟨bound, candidate⟩ := (step_bindsOwnKey s call).kept held.bound
  refine ⟨?_, bound, by rw [candidate, held.candidate]⟩
  obtain ⟨new, now, appended⟩ := step_audits keyed call stored
  have kept : new.val.candidate.val.accessScope = some scope := by
    rcases step_record keyed call c.val.candidateId with same | ⟨new', now', step⟩
    · rw [now, stored] at same
      rw [Option.some.inj same, tenant]
    · rw [now] at now'
      cases now'
      rw [stored] at step
      rw [step.accessScope governed, tenant]
  refine ⟨new, now, kept, ?_⟩
  have other : ∀ {e : AuditEvent}, e.transitionNamed ≠ some c.val.transitionId →
      (old.val.auditEvents ++ [e]).filter (namesTransition c) = [event] := by
    intro e differs
    have unselected : namesTransition c e = false := by
      rw [Bool.eq_false_iff, ne_eq, namesTransition_iff]
      exact differs
    rw [List.filter_append, single, List.filter_cons, unselected]
    simp
  generalize new.val.auditEvents = events at appended ⊢
  cases appended with
  | same => exact single
  | transition q isCall target scope' tenant' unused e named =>
      apply other
      intro again
      rw [tenant] at tenant'
      cases tenant'
      refine once (Or.inl ⟨q, isCall, target, named ▸ again, ?_⟩)
      intro sameKey
      rw [sameKey, held.bound] at unused
      cases unused
  | carried e brought =>
      apply other
      intro again
      exact once (Or.inr ⟨e, brought, again⟩)
  | unnamed e anonymous =>
      apply other
      rw [anonymous]
      simp

theorem TransitionHeld.after_workflows (held : TransitionHeld c scope event s) (keyed : s.Keyed)
    {calls : List WorkflowCall} (later : ∀ w ∈ calls, w.Governed ∧ ¬ w.NamesAgain c) :
    TransitionHeld c scope event (s.workflowRun calls) ∧ (s.workflowRun calls).Keyed := by
  apply Runs.invariant IdeaRepository.workflowStep (fun w => w.Governed ∧ ¬ w.NamesAgain c)
    (fun s => TransitionHeld c scope event s ∧ s.Keyed) ?_ ⟨held, keyed⟩ later
  rintro s w ⟨governed, once⟩ ⟨held, keyed⟩
  obtain ⟨repositoryCalls, same, issued⟩ := s.workflow_reaches w
  rw [same]
  apply Runs.invariant IdeaRepository.step (IssuedBy w)
    (fun s => TransitionHeld c scope event s ∧ s.Keyed) ?_ ⟨held, keyed⟩ issued
  rintro s call issued ⟨held, keyed⟩
  have allowed := issued.governed governed
  exact ⟨held.after_step keyed allowed fun again => once (issued.namesAgain again),
    keyed_after_step keyed allowed⟩

omit [Sha256] in
theorem lifecycle_wellFormed (d : ApplyCandidateLifecycleTransitionCommand) :
    (MutationCall.recordLifecycleTransition (lifecycleRequest d)).WellFormed := by
  have checks := d.valid
  simp only [ApplyCandidateLifecycleTransitionCommandFields.checks, observedTimeChecks,
    requireUtcOffset, firstFailure_append, firstFailure_cons] at checks
  obtain ⟨⟨candidate, transition, actor, key, _, _, _, aware, _⟩, ⟨⟨_, utc, _⟩, at_, isUtc, _⟩,
    _⟩ := checks
  simp only [MutationCall.WellFormed, lifecycleRequest, firstFailure_append, firstFailure_cons,
    requireAwareUtc, requireOptionalText, firstFailure_nil, Option.getD_some]
  exact ⟨⟨⟨candidate, key, actor, transition, trivial⟩, at_, isUtc, trivial⟩, aware, utc, trivial⟩

end Later

/-! ## The workflow -/

section Workflow
variable {c d : ApplyCandidateLifecycleTransitionCommand} {scope : ReviewAccessScope}
  {event : AuditEvent} {s : IdeaRepository}

theorem lifecycle_workflow {record : CandidatePersistenceRecord}
    (stored : s.candidateRecords.get? d.val.candidateId = some record)
    (covered : d.val.accessScopeFilter.covers record.val.candidate.val.accessScope = true) :
    s.applyCandidateLifecycleTransitionToRepository d =
      match s.recordLifecycleTransition (lifecycleRequest d) with
      | (.error raised, final) => (.error raised, final)
      | (.ok persistence, final) =>
          (IdeaRepository.lifecycleWorkflowResult d persistence, final) := by
  have passed : validate [accessScopeCheck (some d.val.accessScopeFilter) record
      .candidateLifecycleAccessScopeDenied] = .ok () := by
    simp [validate_eq_ok, accessScopeCheck, covered]
  rcases recorded : s.recordLifecycleTransition (lifecycleRequest d) with
    ⟨raised | persistence, final⟩ <;>
  simp only [IdeaRepository.applyCandidateLifecycleTransitionToRepository, stored, passed,
    recorded] <;>
  rfl

/-- A retry reports the transition that is held, and changes nothing. -/
theorem TransitionHeld.retry_reported (held : TransitionHeld c scope event s) (keyed : s.Keyed)
    {source : IdeaLifecycleStatus} {acceptedAtUtc : DateTime}
    (tells : TellsTransition event c source acceptedAtUtc)
    (readable : ∀ code ∈ c.val.reasonCodes, ',' ∉ code.toList)
    (sameKey : d.val.idempotencyKey = c.val.idempotencyKey)
    (same : lifecyclePayload d = lifecyclePayload c)
    (covered : d.val.accessScopeFilter.covers (some scope) = true) :
    ReportedExactly d source acceptedAtUtc .replayed
        (s.applyCandidateLifecycleTransitionToRepository d).1 ∧
      (s.applyCandidateLifecycleTransitionToRepository d).2 = s := by
  obtain ⟨record, stored, tenant, single⟩ := held.record
  have fields := same
  simp only [lifecyclePayload, Json.obj.injEq, List.cons.injEq, Prod.mk.injEq, Json.str.injEq,
    Json.arr.injEq, true_and, and_true] at fields
  obtain ⟨target, _, codes, _, transition⟩ := fields
  have codes : d.val.reasonCodes = c.val.reasonCodes :=
    List.map_injective_iff.mpr (fun _ _ equal => by simpa using equal) codes
  rw [← target] at stored
  have ofTenant : (MutationCall.recordLifecycleTransition (lifecycleRequest d)).tenantIn s =
      some scope.val.tenantId := by
    simp [MutationCall.tenantIn, lifecycleRequest, IdeaRepository.tenantOf, stored,
      CandidatePersistenceRecord.tenantId, tenant]
  have used := held.bound
  rw [← sameKey, ← same] at used
  have planned := mutation_used (lifecycle_wellFormed d) ofTenant used
  have replays : storedAnswer (keyRecord d.val.idempotencyKey (lifecyclePayload d))
      d.val.idempotencyKey (lifecyclePayload d) = .replayed := if_pos rfl
  have found : s.recordForStorageKey
      (tenantStorageKey scope.val.tenantId d.val.idempotencyKey) = some record := by
    rw [sameKey, IdeaRepository.recordForStorageKey, held.candidate, ← target, Option.bind_some,
      stored]
  have answered : s.recordLifecycleTransition (lifecycleRequest d) =
      (.ok ⟨.replayed, some record, none⟩, s) := by
    change s.runPlan ((MutationCall.recordLifecycleTransition (lifecycleRequest d)).plan s) = _
    rw [planned]
    change (Except.ok (PersistenceResult.mk (storedAnswer _ d.val.idempotencyKey
      (lifecyclePayload d)) (s.recordForStorageKey
        (tenantStorageKey scope.val.tenantId d.val.idempotencyKey)) none), s) = _
    rw [found, replays]
  rw [lifecycle_workflow stored (by rw [tenant, covered]), answered]
  refine ⟨?_, rfl⟩
  have own : record.val.candidate.val.candidateId = d.val.candidateId := keyed _ _ stored
  have names : namesTransition d = namesTransition c := by
    funext e
    simp only [namesTransition, transition]
  have member : event ∈ record.val.auditEvents := by
    have selected : event ∈ record.val.auditEvents.filter (namesTransition c) := by
      rw [single]
      exact List.mem_singleton_self event
    exact (List.mem_filter.mp selected).1
  have reported := reportedExactly_iff (c := d) ⟨.replayed, some record, none⟩
    rfl rfl own member (tells.retry same)
  exact reported.mpr ⟨by rw [names, single], by rw [codes]; exact readable⟩

end Workflow

/-- A lifecycle transition that is accepted is reported exactly when no reason code
has a comma and no event of its candidate names it already; and then so is every
retry, after every run in which no call names it again. -/
theorem transitions_reported_exactly (calls : List WorkflowCall)
    (governed : ∀ w ∈ calls, w.Governed) (c : ApplyCandidateLifecycleTransitionCommand)
    (old : CandidatePersistenceRecord) (persistence : PersistenceResult) (final : IdeaRepository)
    (stored : (IdeaRepository.empty.workflowRun calls).candidateRecords.get? c.val.candidateId =
      some old)
    (covered : c.val.accessScopeFilter.covers old.val.candidate.val.accessScope = true)
    (run : (IdeaRepository.empty.workflowRun calls).recordLifecycleTransition (lifecycleRequest c) =
      (.ok persistence, final))
    (accepted : persistence.decision = .accepted) :
    let s := IdeaRepository.empty.workflowRun calls
    let source := old.val.candidate.val.lifecycleStatus
    let readable := ∀ code ∈ c.val.reasonCodes, ',' ∉ code.toList
    let unnamed := ∀ e ∈ old.val.auditEvents, e.transitionNamed ≠ some c.val.transitionId
    (ReportedExactly c source c.val.acceptedAtUtc .accepted
        (s.applyCandidateLifecycleTransitionToRepository c).1 ↔ readable ∧ unnamed) ∧
    (readable → unnamed → ∀ later, (∀ w ∈ later, w.Governed ∧ ¬ w.NamesAgain c) →
      ∀ d : ApplyCandidateLifecycleTransitionCommand,
        d.val.idempotencyKey = c.val.idempotencyKey → lifecyclePayload d = lifecyclePayload c →
        d.val.accessScopeFilter.covers old.val.candidate.val.accessScope = true →
        ReportedExactly d source c.val.acceptedAtUtc .replayed
            ((final.workflowRun later).applyCandidateLifecycleTransitionToRepository d).1 ∧
          ((final.workflowRun later).applyCandidateLifecycleTransitionToRepository d).2 =
            final.workflowRun later) := by
  intro s source readable unnamed
  have keyed : s.Keyed := by
    obtain ⟨repositoryCalls, same, allowed⟩ :=
      workflowRun_reaches (s := IdeaRepository.empty) governed
    change (IdeaRepository.empty.workflowRun calls).Keyed
    rw [same]
    exact keyed_after_run keyed_empty allowed
  obtain ⟨scope, updated, event, left⟩ := lifecycle_accepted keyed stored run accepted
  have single : updated.val.auditEvents.filter (namesTransition c) = [event] ↔ unnamed := by
    rw [left.appended, List.filter_append, List.filter_cons, left.tells.named]
    simp only [if_true, List.filter_nil, List.append_left_eq_self, List.filter_eq_nil_iff,
      namesTransition_iff, unnamed]
  have member : event ∈ updated.val.auditEvents := by simp [left.appended]
  constructor
  · rw [lifecycle_workflow stored covered, run, left.answered]
    have reported := reportedExactly_iff (c := c) ⟨.accepted, some updated, some event⟩
      rfl rfl left.own member left.tells
    rw [single] at reported
    exact reported.trans and_comm
  · intro read once later clear d sameKey same allowed
    have keyedFinal : final.Keyed := by
      have next := keyed_after_step keyed
        (c := .mutate (.recordLifecycleTransition (lifecycleRequest c))) trivial
      have moved : s.step (.mutate (.recordLifecycleTransition (lifecycleRequest c))) = final :=
        congrArg Prod.snd run
      rwa [moved] at next
    have held : TransitionHeld c scope event final :=
      ⟨⟨updated, left.stored, left.kept, single.mpr once⟩, left.bound, left.candidate⟩
    obtain ⟨heldLater, keyedLater⟩ := held.after_workflows keyedFinal clear
    rw [left.tenant] at allowed
    exact heldLater.retry_reported keyedLater left.tells read sameKey same allowed

/-! ## A transition id used twice -/

def sampleGenerated : IdeaCandidate where
  val := { (sampleCandidate false).val with lifecycleStatus := .generated }
  valid := by decide +kernel

/-- The settable targets that the candidate passes in turn. -/
def sampleTransition (further : Bool) : ApplyCandidateLifecycleTransitionCommand where
  val :=
    { candidateId := "idea-1", transitionId := "transition-1"
      targetStatus := if further then .scored else .enriched
      changedAtUtc := .utc 20, acceptedAtUtc := .utc (if further then 30 else 20)
      reasonCodes := ["high_cash_ratio"], actorSubject := "operator-1"
      idempotencyKey := if further then "lifecycle-2" else "lifecycle-1"
      accessScopeFilter := ⟨["tenant-a"], [], [], []⟩, eventLineage := some sampleLineage }
  valid := by cases further <;> decide +kernel

def sampleGeneratedCalls : List WorkflowCall :=
  [.repository (.mutate (.persistCandidate
    { samplePersistRequest "persist-1" false 10 with candidate := sampleGenerated }))]

def answersAccepted : Except PyError PersistenceResult → Bool
  | .ok result => result.decision = .accepted
  | .error _ => false

def raisesUnavailable {α : Type} : Except PyError α → Bool
  | .error (.persistedActionEvidenceUnavailable _) => true
  | _ => false

theorem exists_of_answersAccepted {run : Except PyError PersistenceResult × IdeaRepository}
    (answers : answersAccepted run.1 = true) :
    ∃ persistence final, run = (.ok persistence, final) ∧ persistence.decision = .accepted := by
  obtain ⟨answer, final⟩ := run
  cases answer with
  | error raised => cases answers
  | ok persistence => exact ⟨persistence, final, rfl, of_decide_eq_true answers⟩

end

section Sample

local instance transitionSha256 : Sha256 := Sha256.zeros

set_option maxRecDepth 10000 in
theorem sampleTransition_repeats :
    let s := IdeaRepository.empty.workflowRun
      (sampleGeneratedCalls ++ [.lifecycle (sampleTransition false)])
    (answersAccepted (s.recordLifecycleTransition (lifecycleRequest (sampleTransition true))).1 &&
      raisesUnavailable
        (s.applyCandidateLifecycleTransitionToRepository (sampleTransition true)).1) = true := by
  decide +kernel

/-- A second transition under a used id and a new key is accepted, and then raises. -/
theorem reused_transition_id_unreported :
    let s := IdeaRepository.empty.workflowRun
      (sampleGeneratedCalls ++ [.lifecycle (sampleTransition false)])
    let c := sampleTransition true
    (∃ persistence final, s.recordLifecycleTransition (lifecycleRequest c) =
        (.ok persistence, final) ∧ persistence.decision = .accepted) ∧
      ∃ missing, (s.applyCandidateLifecycleTransitionToRepository c).1 =
        .error (.persistedActionEvidenceUnavailable missing) := by
  have both := sampleTransition_repeats
  simp only [Bool.and_eq_true] at both
  refine ⟨exists_of_answersAccepted both.1, ?_⟩
  have raises := both.2
  unfold raisesUnavailable at raises
  split at raises
  · exact ⟨_, ‹_›⟩
  · cases raises

set_option maxRecDepth 10000 in
theorem sampleTransition_first :
    let s := IdeaRepository.empty.workflowRun sampleGeneratedCalls
    (answersAccepted (s.recordLifecycleTransition (lifecycleRequest (sampleTransition false))).1 &&
      (s.candidateRecords.get? "idea-1").any fun old =>
        (sampleTransition false).val.accessScopeFilter.covers old.val.candidate.val.accessScope &&
          old.val.auditEvents.all fun e => e.transitionNamed != some "transition-1") = true := by
  decide +kernel

/-- The first transition under an id is reported. -/
theorem transitions_reported_exactly_sample :
    let s := IdeaRepository.empty.workflowRun sampleGeneratedCalls
    let c := sampleTransition false
    ∃ old, s.candidateRecords.get? "idea-1" = some old ∧
      ReportedExactly c old.val.candidate.val.lifecycleStatus (.utc 20) .accepted
        (s.applyCandidateLifecycleTransitionToRepository c).1 := by
  have first := sampleTransition_first
  simp only [Bool.and_eq_true, Option.any_eq_true, List.all_eq_true, bne_iff_ne] at first
  obtain ⟨accepted, old, stored, covered, unnamed⟩ := first
  obtain ⟨persistence, final, run, decided⟩ := exists_of_answersAccepted accepted
  have governed : ∀ w ∈ sampleGeneratedCalls, w.Governed := by
    intro w member
    rw [sampleGeneratedCalls, List.mem_singleton] at member
    subst member
    trivial
  have readable : ∀ code ∈ (sampleTransition false).val.reasonCodes, ',' ∉ code.toList := by
    decide
  have reported := (transitions_reported_exactly sampleGeneratedCalls governed
    (sampleTransition false) old persistence final stored covered run decided).1
  exact ⟨old, stored, reported.mpr ⟨readable, unnamed⟩⟩

end Sample

end LotusIdea

import LotusIdea.Domain.StateErrors
import LotusIdea.Repository.Runs

/-!
# Mutations keep to the compatible states

Neither the plan of a mutation nor its commit raises `InvalidCandidateState`: a plan
transitions a candidate, reconciles it or takes over one that the domain returned,
and everything else that it raises is about its arguments.
-/

set_option autoImplicit false

namespace LotusIdea

open IdeaRepository (PersistRequest LifecycleRequest ResultRequest PrecheckRequest)

section
variable [Sha256]

/-! ## Outbox events -/

omit [Sha256] in
theorem eventLineage_stateFree (l : EventLineageFields) : StateFree l.checks := by
  simp [EventLineageFields.checks, requireProductSafeContextId]

omit [Sha256] in
theorem outboxEvent_stateFree (e : OutboxEventFields) : StateFree e.checks := by
  have optional : ∀ value fieldName, StateFree (OutboxEventFields.optionalUtc value fieldName) := by
    intro value fieldName
    exact harmless_elim fun t => by simp
  have lease : StateFree e.leaseChecks := by
    unfold OutboxEventFields.leaseChecks
    split <;> simp
  have status : StateFree e.statusChecks := by
    unfold OutboxEventFields.statusChecks
    split <;> simp
  simp [OutboxEventFields.checks, OutboxEventFields.identityChecks, OutboxEventFields.timeChecks,
    OutboxEventFields.payloadChecks, eventLineage_stateFree, optional, lease, status]

theorem systemEventLineage_keepsState (eventId : String) :
    KeepsState (systemEventLineage eventId) := by
  unfold systemEventLineage EventLineageContext.create
  exact Checked.make_avoids (eventLineage_stateFree _)

theorem event_keepsState (e : CandidateEventRequest) : KeepsState e.build := by
  unfold CandidateEventRequest.build buildCandidateOutboxEvent
  refine .seq (validate_keepsState (by simp)) fun _ _ => ?_
  refine .seq ?_ fun fingerprint _ => ?_
  · exact .seq (validate_keepsState (by simp)) fun _ _ => .ok _
  refine .seq ?_ fun lineage _ => ?_
  · unfold chosenLineage
    split
    · exact .ok _
    · exact systemEventLineage_keepsState _
  unfold OutboxEventRecord.create
  refine .seq (validate_keepsState (by simp [OutboxEventFields.identityChecks])) fun _ _ => ?_
  refine .seq ?_ fun settled _ => Checked.make_avoids (outboxEvent_stateFree _)
  unfold OutboxEventFields.settledLineage
  split
  · exact systemEventLineage_keepsState _
  · unfold EventLineageContext.create
    exact Checked.make_avoids (eventLineage_stateFree _)

/-! ## Admission -/

theorem admission_keepsState (s : IdeaRepository) (tenantId idempotencyKey : String)
    (payload : Json) : KeepsState (s.admission tenantId idempotencyKey payload) := by
  unfold IdeaRepository.admission
  refine .seq ?_ fun storageKey _ => ?_
  · exact .seq (validate_keepsState (by simp)) fun _ _ => .ok _
  split <;> exact .ok _

theorem planForRecord_keepsState {s : IdeaRepository} {candidateId idempotencyKey : String}
    {payload : Json} {unscoped : PyError}
    {next : CandidatePersistenceRecord → String → IdempotencyRecord → Except PyError MutationPlan}
    (other : ¬ unscoped.IsCandidateState)
    (keeps : ∀ record storageKey idempotencyRecord,
      KeepsState (next record storageKey idempotencyRecord)) :
    KeepsState (s.planForRecord candidateId idempotencyKey payload unscoped next) := by
  unfold IdeaRepository.planForRecord
  split
  · exact .ok _
  split
  · exact .error other
  refine .seq (admission_keepsState _ _ _ _) fun admission _ => ?_
  split
  · exact .ok _
  · exact keeps _ _ _

omit [Sha256] in
theorem record_keepsState (r : CandidatePersistenceRecordFields) :
    KeepsState (CandidatePersistenceRecord.create r) :=
  Checked.make_avoids (by simp [CandidatePersistenceRecordFields.checks])

omit [Sha256] in
theorem lifecycleEntry_stateFree (e : LifecycleHistoryEntryFields) : StateFree e.checks := by
  simp [LifecycleHistoryEntryFields.checks]

omit [Sha256] in
theorem versionEntry_keepsState (candidate : IdeaCandidate) (evidenceHash : String)
    (source : Option IdeaLifecycleStatus) (recordedAtUtc : DateTime) :
    KeepsState (CandidateVersionHistoryEntry.ofCandidate candidate evidenceHash source
      recordedAtUtc) := by
  refine Checked.make_avoids ?_
  simp only [CandidateVersionHistoryEntryFields.checks, harmless_append]
  exact ⟨⟨by simp, harmless_elim fun version => by simp⟩, by simp⟩

omit [Sha256] in
theorem historyAfter_keepsState (record : CandidatePersistenceRecord) (candidateId : String)
    (candidate : IdeaCandidate) (actorSubject : String) (changedAtUtc : DateTime) :
    KeepsState (historyAfter record candidateId candidate actorSubject changedAtUtc) := by
  unfold historyAfter
  split
  · exact .ok _
  · exact .seq (Checked.make_avoids (lifecycleEntry_stateFree _)) fun entry _ => .ok _

/-! ## Plans -/

section Plans
variable (s : IdeaRepository)

theorem reconciledPlan_keepsState (existing : CandidatePersistenceRecord) (q : PersistRequest)
    (decision : PersistenceDecision) (candidate : IdeaCandidate) (storageKey : String)
    (idempotencyRecord : IdempotencyRecord) :
    KeepsState (IdeaRepository.reconciledPlan existing q decision candidate storageKey
      idempotencyRecord) := by
  unfold IdeaRepository.reconciledPlan
  refine .seq ?_ fun eventType _ => ?_
  · unfold reconciliationEventType
    split
    · exact .ok _
    · exact .ok _
    · exact .ok _
    · exact .error fun state => state
  refine .seq (auditEvent_keepsState _) fun auditEvent _ => ?_
  refine .seq (versionEntry_keepsState _ _ _ _) fun entry _ => ?_
  exact .seq (record_keepsState _) fun record _ => .ok _

theorem createPlan_keepsState (q : PersistRequest) (storageKey : String)
    (idempotencyRecord : IdempotencyRecord) :
    KeepsState (IdeaRepository.createPlan q storageKey idempotencyRecord) := by
  unfold IdeaRepository.createPlan
  refine .seq (auditEvent_keepsState _) fun auditEvent _ => ?_
  refine .seq (versionEntry_keepsState _ _ _ _) fun entry _ => ?_
  exact .seq (record_keepsState _) fun record _ => .ok _

theorem persistPlan_keepsState (q : PersistRequest) : KeepsState (s.persistPlan q) := by
  unfold IdeaRepository.persistPlan
  refine .seq (validate_keepsState (by simp)) fun _ _ => ?_
  refine .seq ?_ fun scope _ => ?_
  · unfold IdeaRepository.requireAuthoritativeScope
    split
    · exact .error fun state => state
    · split
      · exact .ok _
      · exact .error fun state => state
  refine .seq (validate_keepsState (by simp)) fun _ _ => ?_
  refine .seq (admission_keepsState _ _ _ _) fun admission _ => ?_
  split
  · exact .ok _
  split
  · unfold IdeaRepository.reconcilePlan
    refine .seq (reconcileCandidate_keepsState _ _ _ _ _) fun reconciliation _ => ?_
    split
    · exact .ok _
    split
    · exact .ok _
    split
    · exact .error fun state => state
    · exact reconciledPlan_keepsState _ _ _ _ _ _
  · exact createPlan_keepsState _ _ _

omit [Sha256] in
theorem transitionRecord_keepsState (record : CandidatePersistenceRecord)
    (targetStatus : IdeaLifecycleStatus) (actorSubject : String) (occurredAtUtc : DateTime)
    (attributes : List (String × String)) :
    KeepsState (IdeaRepository.transitionRecord record targetStatus actorSubject occurredAtUtc
      attributes) := by
  unfold IdeaRepository.transitionRecord
  refine .seq (transitionCandidate_keepsState _ _ _) fun transitioned _ => ?_
  refine .seq (Checked.make_avoids (lifecycleEntry_stateFree _)) fun entry _ => ?_
  refine .seq (auditEvent_keepsState _) fun auditEvent _ => ?_
  exact .seq (record_keepsState _) fun updated _ => .ok _

theorem lifecyclePlan_keepsState (q : IdeaRepository.LifecycleRequest) :
    KeepsState (s.lifecyclePlan q) := by
  unfold IdeaRepository.lifecyclePlan
  refine .seq (validate_keepsState (by simp)) fun _ _ => ?_
  refine planForRecord_keepsState (fun state => state) fun record storageKey idempotencyRecord => ?_
  exact .seq (transitionRecord_keepsState _ _ _ _ _) fun moved _ => .ok _

theorem reviewPlan_keepsState (q : ResultRequest ReviewActionResult) :
    KeepsState (s.reviewPlan q) := by
  unfold IdeaRepository.reviewPlan
  refine .seq (validate_keepsState (by simp)) fun _ _ => ?_
  refine planForRecord_keepsState (fun state => state) fun record storageKey idempotencyRecord => ?_
  split
  · exact .ok _
  unfold IdeaRepository.reviewedPlan
  refine .seq (validate_keepsState ?_) fun _ _ => ?_
  · simp [invalidReviewAction, PyError.IsCandidateState]
  refine .seq (historyAfter_keepsState _ _ _ _ _) fun history _ => ?_
  exact .seq (record_keepsState _) fun updated _ => .ok _

theorem feedbackPlan_keepsState (q : ResultRequest FeedbackResult) :
    KeepsState (s.feedbackPlan q) := by
  unfold IdeaRepository.feedbackPlan
  refine .seq (validate_keepsState (by simp)) fun _ _ => ?_
  refine planForRecord_keepsState (fun state => state) fun record storageKey idempotencyRecord => ?_
  split
  · exact .ok _
  · exact .seq (record_keepsState _) fun updated _ => .ok _

omit [Sha256] in
theorem grantIsHeld_keepsState (grant : ReviewAuthorityGrant)
    (decisions : List GovernedReviewDecision) : KeepsState (grantIsHeld grant decisions) := by
  induction decisions with
  | nil => exact .ok _
  | cons decision rest ih =>
      refine .seq (authorityGrant_keepsState decision) fun held _ => ?_
      split
      · exact .ok _
      · exact ih

theorem conversionPlan_keepsState (q : ResultRequest ConversionIntentResult) :
    KeepsState (s.conversionPlan q) := by
  unfold IdeaRepository.conversionPlan
  refine .seq (validate_keepsState (by simp)) fun _ _ => ?_
  refine planForRecord_keepsState (fun state => state) fun record storageKey idempotencyRecord => ?_
  unfold IdeaRepository.convertedPlan
  refine .seq (validate_keepsState (by simp [PyError.IsCandidateState])) fun _ _ => ?_
  split
  · exact .error fun state => state
  refine .seq (grantIsHeld_keepsState _ _) fun held _ => ?_
  refine .seq (validate_keepsState (by simp [PyError.IsCandidateState])) fun _ _ => ?_
  refine .seq (historyAfter_keepsState _ _ _ _ _) fun history _ => ?_
  exact .seq (record_keepsState _) fun updated _ => .ok _

theorem outcomePlan_keepsState (q : ResultRequest ConversionOutcomeResult) :
    KeepsState (s.outcomePlan q) := by
  unfold IdeaRepository.outcomePlan
  refine .seq (validate_keepsState (by simp)) fun _ _ => ?_
  split
  · exact .ok _
  refine planForRecord_keepsState (fun state => state) fun record storageKey idempotencyRecord => ?_
  unfold IdeaRepository.outcomeNextPlan
  split
  · exact .ok _
  split
  · exact .ok _
  · exact .seq (record_keepsState _) fun updated _ => .ok _

theorem packPlan_keepsState (q : ResultRequest ReportEvidencePackResult) :
    KeepsState (s.packPlan q) := by
  unfold IdeaRepository.packPlan
  refine .seq (validate_keepsState (by simp)) fun _ _ => ?_
  refine planForRecord_keepsState (fun state => state) fun record storageKey idempotencyRecord => ?_
  exact .seq (record_keepsState _) fun updated _ => .ok _

/-! ## Mutations and prechecks -/

theorem commit_keepsState (plan : MutationPlan) : KeepsState (s.commit plan).1 := by
  unfold IdeaRepository.commit
  split
  · exact .ok _
  · exact .ok _
  rename_i m
  split
  · rename_i raised built
    exact .error (event_keepsState m.event raised built)
  · exact .ok _

theorem mutate_keepsState (c : MutationCall) : KeepsState (s.mutate c).1 := by
  have planned : KeepsState (c.plan s) := by
    cases c with
    | persistCandidate q => exact persistPlan_keepsState s q
    | recordLifecycleTransition q => exact lifecyclePlan_keepsState s q
    | recordReviewAction q => exact reviewPlan_keepsState s q
    | recordFeedbackEvent q => exact feedbackPlan_keepsState s q
    | recordConversionIntent q => exact conversionPlan_keepsState s q
    | recordConversionOutcome q => exact outcomePlan_keepsState s q
    | recordReportEvidencePack q => exact packPlan_keepsState s q
  unfold IdeaRepository.mutate IdeaRepository.runPlan
  cases ran : c.plan s with
  | error raised => exact .error (planned raised ran)
  | ok plan => exact commit_keepsState s plan

theorem precheck_keepsState {α : Type} (q : PrecheckRequest α)
    (seen : String → IdempotencyRecord → Option MutationPlan) :
    KeepsState (s.precheck q seen).1 := by
  unfold IdeaRepository.precheck
  split
  · rename_i raised checked
    exact .error (validate_keepsState (by simp) raised checked)
  split
  · rename_i raised admitted
    exact .error (admission_keepsState _ _ _ _ raised admitted)
  · exact .ok _
  split
  · exact .ok _
  · exact .map _ (commit_keepsState s _)

end Plans

end

end LotusIdea

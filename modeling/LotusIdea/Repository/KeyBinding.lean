import LotusIdea.Downstream.ScopedIdentities
import LotusIdea.Repository.Writes

/-!
# Idempotency keys

Every mutation looks its key up before it does anything else, and binds it with
the write that it answers for.  A bound key stays bound to its payload, so that
later calls of the tenant replay or conflict and leave no trace.  The keyed
lineage request binds its key only when it writes a lineage.
-/

set_option autoImplicit false

namespace LotusIdea

open IdeaRepository (MutationRequest PersistRequest LifecycleRequest ResultRequest PrecheckRequest
  LineageRequest)

def CandidatePersistenceRecord.tenantId (r : CandidatePersistenceRecord) : Option String :=
  r.val.candidate.val.accessScope.map fun scope => scope.val.tenantId

section
variable [Sha256]

def IdeaRepository.tenantOf (s : IdeaRepository) (candidateId : String) : Option String :=
  (s.candidateRecords.get? candidateId).bind CandidatePersistenceRecord.tenantId

/-! ## Keyed mutations -/

namespace MutationCall

/-- The tenant whose key a mutation uses: that of the candidate that it is about. -/
def tenantIn (s : IdeaRepository) : MutationCall → Option String
  | .persistCandidate q => q.candidate.val.accessScope.map fun scope => scope.val.tenantId
  | .recordLifecycleTransition q => s.tenantOf q.candidateId
  | .recordReviewAction q => s.tenantOf q.result.decision.val.candidateId
  | .recordFeedbackEvent q => s.tenantOf q.result.feedbackEvent.val.candidateId
  | .recordConversionIntent q => s.tenantOf q.result.conversionIntent.val.intent.val.candidateId
  | .recordConversionOutcome q =>
      (s.conversionIntentCandidates.get? q.result.conversionOutcome.val.conversionIntentId).bind
        s.tenantOf
  | .recordReportEvidencePack q => s.tenantOf q.result.evidencePack.val.candidateId

/-- The arguments pass the checks that a mutation makes before it reads its key. -/
def WellFormed : MutationCall → Prop
  | .persistCandidate q =>
      firstFailure [requireText q.idempotencyKey "idempotency_key",
        requireText q.actorSubject "actor_subject"] = none ∧
      (∃ scope, IdeaRepository.requireAuthoritativeScope q.candidate = .ok scope) ∧
      firstFailure (requireAwareUtc q.occurredAtUtc "occurred_at_utc") = none
  | .recordLifecycleTransition q =>
      firstFailure ([requireText q.candidateId "candidate_id",
        requireText q.idempotencyKey "idempotency_key",
        requireText q.actorSubject "actor_subject",
        requireOptionalText q.transitionId "transition_id"] ++
        requireAwareUtc q.occurredAtUtc "occurred_at_utc" ++
        requireAwareUtc (q.observedAtUtc.getD q.occurredAtUtc) "observed_at_utc") = none
  | .recordReviewAction q =>
      firstFailure [requireText q.idempotencyKey "idempotency_key",
        requireText q.result.decision.val.candidateId "candidate_id"] = none
  | .recordFeedbackEvent q =>
      firstFailure [requireText q.idempotencyKey "idempotency_key",
        requireText q.result.feedbackEvent.val.candidateId "candidate_id"] = none
  | .recordConversionIntent q =>
      firstFailure [requireText q.idempotencyKey "idempotency_key",
        (q.result.conversionIntent.val.idempotencyKey != q.idempotencyKey, .valueError
          "conversion intent idempotency key must match repository idempotency key"),
        requireText q.result.conversionIntent.val.intent.val.candidateId "candidate_id"] = none
  | .recordConversionOutcome q =>
      firstFailure [requireText q.idempotencyKey "idempotency_key",
        requireText q.result.conversionOutcome.val.conversionIntentId "conversion_intent_id"] =
          none
  | .recordReportEvidencePack q =>
      firstFailure [requireText q.idempotencyKey "idempotency_key",
        requireText q.result.evidencePack.val.candidateId "candidate_id"] = none

end MutationCall

/-- What a mutation plans under its tenant's key: an answer for a used key, else an
answer that is neither an acceptance nor a replay, or one that binds the key. -/
inductive KeyedPlan (s : IdeaRepository) (tenantId : String) (q : MutationRequest) :
    MutationPlan → Prop where
  | used (existing : IdempotencyRecord)
      (stored : s.idempotencyRecords.get? (tenantStorageKey tenantId q.idempotencyKey) =
        some existing) :
      KeyedPlan s tenantId q
        (.answer ⟨storedAnswer existing q.idempotencyKey q.payload,
          s.recordForStorageKey (tenantStorageKey tenantId q.idempotencyKey), none⟩)
  | turnedAway (result : PersistenceResult)
      (unused : s.idempotencyRecords.get? (tenantStorageKey tenantId q.idempotencyKey) = none)
      (refuses : result.decision.isAccepting = false) (anew : result.decision ≠ .replayed) :
      KeyedPlan s tenantId q (.answer result)
  | rebinds (result : PersistenceResult) (candidateId : String)
      (unused : s.idempotencyRecords.get? (tenantStorageKey tenantId q.idempotencyKey) = none) :
      KeyedPlan s tenantId q
        (.rebind result (tenantStorageKey tenantId q.idempotencyKey)
          (keyRecord q.idempotencyKey q.payload) candidateId)
  | accepts (m : AcceptedMutation)
      (unused : s.idempotencyRecords.get? (tenantStorageKey tenantId q.idempotencyKey) = none)
      (storageKey : m.storageKey = tenantStorageKey tenantId q.idempotencyKey)
      (record : m.idempotencyRecord = keyRecord q.idempotencyKey q.payload) :
      KeyedPlan s tenantId q (.accept m)

/-- A key is admitted for texts that are not blank. -/
theorem admit_filled {s : IdeaRepository} {tenantId idempotencyKey : String} {payload : Json}
    {admission : Admission} (run : s.admission tenantId idempotencyKey payload = .ok admission) :
    PyText.isBlank tenantId = false ∧ PyText.isBlank idempotencyKey = false := by
  simp only [IdeaRepository.admission] at run
  obtain ⟨key, named, _⟩ := Except.seq_returns.mp run
  simp only [tenantScopedIdempotencyIdentity] at named
  obtain ⟨_, passed, _⟩ := Except.seq_returns.mp named
  have checks := validate_eq_ok.mp passed
  simp only [firstFailure_cons] at checks
  exact ⟨checks.1, checks.2.1⟩

section Plans
variable {s : IdeaRepository} {tenantId : String} {plan : MutationPlan}

theorem identityPlan_keyed {q : MutationRequest}
    {existing : Option (Bool × CandidatePersistenceRecord)} {mismatch : PersistenceDecision}
    (unused : s.idempotencyRecords.get? (tenantStorageKey tenantId q.idempotencyKey) = none)
    (refuses : mismatch.isAccepting = false) (anew : mismatch ≠ .replayed)
    (seen : IdeaRepository.identityPlan existing mismatch
      (tenantStorageKey tenantId q.idempotencyKey) (keyRecord q.idempotencyKey q.payload) =
      some plan) : KeyedPlan s tenantId q plan := by
  unfold IdeaRepository.identityPlan at seen
  obtain ⟨⟨same, record⟩, _, made⟩ := Option.map_eq_some_iff.mp seen
  cases same with
  | true =>
      cases made
      exact .rebinds _ _ unused
  | false =>
      cases made
      exact .turnedAway _ unused refuses anew

/-- A mutation of a stored candidate reads the key of the candidate's tenant first. -/
theorem planForRecord_keyed {q : MutationRequest} {candidateId : String} {unscoped : PyError}
    {next : CandidatePersistenceRecord → String → IdempotencyRecord → Except PyError MutationPlan}
    (tenant : s.tenantOf candidateId = some tenantId)
    (filled : PyText.isBlank q.idempotencyKey = false)
    (goesOn : ∀ record,
      s.idempotencyRecords.get? (tenantStorageKey tenantId q.idempotencyKey) = none →
      next record (tenantStorageKey tenantId q.idempotencyKey)
        (keyRecord q.idempotencyKey q.payload) = .ok plan → KeyedPlan s tenantId q plan)
    (run : s.planForRecord candidateId q.idempotencyKey q.payload unscoped next = .ok plan) :
    KeyedPlan s tenantId q plan := by
  obtain ⟨record, stored, named⟩ := Option.bind_eq_some_iff.mp tenant
  obtain ⟨scope, scoping, rfl⟩ := Option.map_eq_some_iff.mp named
  cases planForRecord_cases filled run with
  | notFound absent =>
      rw [stored] at absent
      cases absent
  | answered found own existing stored' tenant' used =>
      rw [stored] at stored'
      cases stored'
      rw [scoping] at tenant'
      cases tenant'
      exact .used existing used
  | goesOn found own _ stored' tenant' fresh planned =>
      rw [stored] at stored'
      cases stored'
      rw [scoping] at tenant'
      cases tenant'
      exact goesOn record fresh.unseen planned

/-- A used key is answered from what is stored under it. -/
theorem planForRecord_used {q : MutationRequest} {candidateId : String} {unscoped : PyError}
    {next : CandidatePersistenceRecord → String → IdempotencyRecord → Except PyError MutationPlan}
    {existing : IdempotencyRecord} (tenant : s.tenantOf candidateId = some tenantId)
    (filled : PyText.isBlank q.idempotencyKey = false)
    (used : s.idempotencyRecords.get? (tenantStorageKey tenantId q.idempotencyKey) =
      some existing) :
    s.planForRecord candidateId q.idempotencyKey q.payload unscoped next =
      .ok (.answer ⟨storedAnswer existing q.idempotencyKey q.payload,
        s.recordForStorageKey (tenantStorageKey tenantId q.idempotencyKey), none⟩) := by
  obtain ⟨record, stored, named⟩ := Option.bind_eq_some_iff.mp tenant
  obtain ⟨scope, scoping, rfl⟩ := Option.map_eq_some_iff.mp named
  simp only [IdeaRepository.planForRecord, stored, scoping,
    admit_eq s q.payload (scope_tenant_not_blank scope) filled, used]
  rfl

theorem persist_keyed {q : PersistRequest}
    (tenant : (MutationCall.persistCandidate q).tenantIn s = some tenantId)
    (run : s.persistPlan q = .ok plan) : KeyedPlan s tenantId q.toMutationRequest plan := by
  obtain ⟨scope, scoping, rfl⟩ := Option.map_eq_some_iff.mp tenant
  simp only [IdeaRepository.persistPlan] at run
  obtain ⟨_, passed, run⟩ := Except.seq_returns.mp run
  obtain ⟨own, authoritative, run⟩ := Except.seq_returns.mp run
  obtain ⟨_, _, run⟩ := Except.seq_returns.mp run
  obtain ⟨admission, admitted, run⟩ := Except.seq_returns.mp run
  have isScope : own = scope := by
    simp only [IdeaRepository.requireAuthoritativeScope, scoping] at authoritative
    split at authoritative <;> cases authoritative
    rfl
  subst isScope
  have checks := validate_eq_ok.mp passed
  simp only [firstFailure_cons, requireText_passes] at checks
  rw [admit_eq s q.payload (scope_tenant_not_blank own) checks.1] at admitted
  cases found : s.idempotencyRecords.get? (tenantStorageKey own.val.tenantId q.idempotencyKey) with
  | some existing =>
      rw [found] at admitted
      cases admitted
      cases run
      exact .used existing found
  | none =>
      rw [found] at admitted
      cases admitted
      cases stored : s.candidateRecords.get? q.candidate.val.candidateId with
      | none =>
          simp only [stored, IdeaRepository.createPlan] at run
          obtain ⟨auditEvent, _, run⟩ := Except.seq_returns.mp run
          obtain ⟨entry, _, run⟩ := Except.seq_returns.mp run
          obtain ⟨record, _, run⟩ := Except.seq_returns.mp run
          cases run
          exact .accepts _ found rfl rfl
      | some existing =>
          simp only [stored, IdeaRepository.reconcilePlan] at run
          obtain ⟨reconciliation, reconciled, run⟩ := Except.seq_returns.mp run
          rcases reconcileCandidate_cases reconciled with
            rfl | rfl | ⟨next, held, same, later, accepting⟩
          · cases run
            exact .turnedAway _ found rfl (by simp)
          · cases run
            exact .rebinds _ _ found
          · rcases accepting with decided | decided | decided
            all_goals
              simp only [decided, held, reduceCtorEq, if_false, IdeaRepository.reconciledPlan]
                at run
              obtain ⟨eventType, _, run⟩ := Except.seq_returns.mp run
              obtain ⟨auditEvent, _, run⟩ := Except.seq_returns.mp run
              obtain ⟨entry, _, run⟩ := Except.seq_returns.mp run
              obtain ⟨record, _, run⟩ := Except.seq_returns.mp run
              cases run
              exact .accepts _ found rfl rfl

theorem lifecycle_keyed {q : IdeaRepository.LifecycleRequest}
    (tenant : s.tenantOf q.candidateId = some tenantId) (run : s.lifecyclePlan q = .ok plan) : KeyedPlan s tenantId q.toMutationRequest plan := by
  simp only [IdeaRepository.lifecyclePlan] at run
  obtain ⟨_, passed, run⟩ := Except.seq_returns.mp run
  have checks := validate_eq_ok.mp passed
  simp only [firstFailure_append, firstFailure_cons, requireText_passes] at checks
  refine planForRecord_keyed tenant checks.1.1.2.1 ?_ run
  intro record unused planned
  obtain ⟨⟨updated, auditEvent⟩, _, planned⟩ := Except.seq_returns.mp planned
  cases planned
  exact .accepts _ unused rfl rfl

theorem review_keyed {q : ResultRequest ReviewActionResult}
    (tenant : s.tenantOf q.result.decision.val.candidateId = some tenantId)
    (run : s.reviewPlan q = .ok plan) : KeyedPlan s tenantId q.toMutationRequest plan := by
  simp only [IdeaRepository.reviewPlan] at run
  obtain ⟨_, passed, run⟩ := Except.seq_returns.mp run
  have checks := validate_eq_ok.mp passed
  simp only [firstFailure_cons, requireText_passes] at checks
  refine planForRecord_keyed tenant checks.1 ?_ run
  intro record unused planned
  split at planned
  · rename_i seen
    cases planned
    exact identityPlan_keyed unused rfl (by simp) seen
  · simp only [IdeaRepository.reviewedPlan] at planned
    obtain ⟨_, _, planned⟩ := Except.seq_returns.mp planned
    obtain ⟨_, _, planned⟩ := Except.seq_returns.mp planned
    obtain ⟨_, _, planned⟩ := Except.seq_returns.mp planned
    cases planned
    exact .accepts _ unused rfl rfl

theorem feedback_keyed {q : ResultRequest FeedbackResult}
    (tenant : s.tenantOf q.result.feedbackEvent.val.candidateId = some tenantId)
    (run : s.feedbackPlan q = .ok plan) : KeyedPlan s tenantId q.toMutationRequest plan := by
  simp only [IdeaRepository.feedbackPlan] at run
  obtain ⟨_, passed, run⟩ := Except.seq_returns.mp run
  have checks := validate_eq_ok.mp passed
  simp only [firstFailure_cons, requireText_passes] at checks
  refine planForRecord_keyed tenant checks.1 ?_ run
  intro record unused planned
  split at planned
  · rename_i seen
    cases planned
    exact identityPlan_keyed unused rfl (by simp) seen
  · simp only [IdeaRepository.feedbackRecordedPlan] at planned
    obtain ⟨_, _, planned⟩ := Except.seq_returns.mp planned
    cases planned
    exact .accepts _ unused rfl rfl

theorem conversion_keyed {q : ResultRequest ConversionIntentResult}
    (tenant : s.tenantOf q.result.conversionIntent.val.intent.val.candidateId = some tenantId)
    (run : s.conversionPlan q = .ok plan) : KeyedPlan s tenantId q.toMutationRequest plan := by
  simp only [IdeaRepository.conversionPlan] at run
  obtain ⟨_, passed, run⟩ := Except.seq_returns.mp run
  have checks := validate_eq_ok.mp passed
  simp only [firstFailure_cons, requireText_passes] at checks
  refine planForRecord_keyed tenant checks.1 ?_ run
  intro record unused planned
  simp only [IdeaRepository.convertedPlan] at planned
  obtain ⟨_, _, planned⟩ := Except.seq_returns.mp planned
  split at planned
  · cases planned
  obtain ⟨_, _, planned⟩ := Except.seq_returns.mp planned
  obtain ⟨_, _, planned⟩ := Except.seq_returns.mp planned
  obtain ⟨_, _, planned⟩ := Except.seq_returns.mp planned
  obtain ⟨_, _, planned⟩ := Except.seq_returns.mp planned
  cases planned
  exact .accepts _ unused rfl rfl

theorem outcome_keyed {q : ResultRequest ConversionOutcomeResult}
    (tenant : (MutationCall.recordConversionOutcome q).tenantIn s = some tenantId)
    (run : s.outcomePlan q = .ok plan) : KeyedPlan s tenantId q.toMutationRequest plan := by
  obtain ⟨candidateId, leads, tenant⟩ := Option.bind_eq_some_iff.mp tenant
  simp only [IdeaRepository.outcomePlan, leads] at run
  obtain ⟨_, passed, run⟩ := Except.seq_returns.mp run
  have checks := validate_eq_ok.mp passed
  simp only [firstFailure_cons, requireText_passes] at checks
  refine planForRecord_keyed tenant checks.1 ?_ run
  intro record unused planned
  unfold IdeaRepository.outcomeNextPlan at planned
  split at planned
  · rename_i seen
    cases planned
    exact identityPlan_keyed unused rfl (by simp) seen
  split at planned
  · cases planned
    exact .turnedAway _ unused rfl (by simp)
  · simp only [IdeaRepository.outcomeAcceptedPlan] at planned
    obtain ⟨_, _, planned⟩ := Except.seq_returns.mp planned
    cases planned
    exact .accepts _ unused rfl rfl

theorem pack_keyed {q : ResultRequest ReportEvidencePackResult}
    (tenant : s.tenantOf q.result.evidencePack.val.candidateId = some tenantId)
    (run : s.packPlan q = .ok plan) : KeyedPlan s tenantId q.toMutationRequest plan := by
  simp only [IdeaRepository.packPlan] at run
  obtain ⟨_, passed, run⟩ := Except.seq_returns.mp run
  have checks := validate_eq_ok.mp passed
  simp only [firstFailure_cons, requireText_passes] at checks
  refine planForRecord_keyed tenant checks.1 ?_ run
  intro record unused planned
  simp only [IdeaRepository.packedPlan] at planned
  obtain ⟨_, _, planned⟩ := Except.seq_returns.mp planned
  cases planned
  exact .accepts _ unused rfl rfl

theorem mutation_keyed {c : MutationCall} (tenant : c.tenantIn s = some tenantId)
    (run : c.plan s = .ok plan) : KeyedPlan s tenantId c.request plan := by
  cases c with
  | persistCandidate q => exact persist_keyed tenant run
  | recordLifecycleTransition q => exact lifecycle_keyed tenant run
  | recordReviewAction q => exact review_keyed tenant run
  | recordFeedbackEvent q => exact feedback_keyed tenant run
  | recordConversionIntent q => exact conversion_keyed tenant run
  | recordConversionOutcome q => exact outcome_keyed tenant run
  | recordReportEvidencePack q => exact pack_keyed tenant run

/-- Under a used key a mutation with well-formed arguments is answered at once. -/
theorem mutation_used {c : MutationCall} {existing : IdempotencyRecord} (formed : c.WellFormed)
    (tenant : c.tenantIn s = some tenantId)
    (used : s.idempotencyRecords.get? (tenantStorageKey tenantId c.request.idempotencyKey) =
      some existing) :
    c.plan s = .ok (.answer ⟨storedAnswer existing c.request.idempotencyKey c.request.payload,
      s.recordForStorageKey (tenantStorageKey tenantId c.request.idempotencyKey), none⟩) := by
  cases c with
  | persistCandidate q =>
      obtain ⟨scope, scoping, rfl⟩ := Option.map_eq_some_iff.mp tenant
      obtain ⟨texts, ⟨own, authoritative⟩, aware⟩ := formed
      have isScope : own = scope := by
        have required := authoritative
        simp only [IdeaRepository.requireAuthoritativeScope, scoping] at required
        split at required <;> cases required
        rfl
      subst isScope
      have filled := texts
      simp only [firstFailure_cons, requireText_passes] at filled
      have admitted := admit_eq s q.payload (scope_tenant_not_blank own) filled.1
      have stored : s.idempotencyRecords.get?
          (tenantStorageKey own.val.tenantId q.idempotencyKey) = some existing := used
      rw [stored] at admitted
      simp only [MutationCall.plan, IdeaRepository.persistPlan]
      refine Except.seq_returns.mpr ⟨(), validate_eq_ok.mpr texts, ?_⟩
      refine Except.seq_returns.mpr ⟨own, authoritative, ?_⟩
      refine Except.seq_returns.mpr ⟨(), validate_eq_ok.mpr aware, ?_⟩
      exact Except.seq_returns.mpr ⟨_, admitted, rfl⟩
  | recordLifecycleTransition q =>
      have checks := formed
      simp only [MutationCall.WellFormed, firstFailure_append, firstFailure_cons,
        requireText_passes] at checks
      simp only [MutationCall.plan, IdeaRepository.lifecyclePlan]
      refine Except.seq_returns.mpr ⟨(), validate_eq_ok.mpr formed, ?_⟩
      exact planForRecord_used tenant checks.1.1.2.1 used
  | recordReviewAction q =>
      have checks := formed
      simp only [MutationCall.WellFormed, firstFailure_cons, requireText_passes] at checks
      simp only [MutationCall.plan, IdeaRepository.reviewPlan]
      refine Except.seq_returns.mpr ⟨(), validate_eq_ok.mpr formed, ?_⟩
      exact planForRecord_used tenant checks.1 used
  | recordFeedbackEvent q =>
      have checks := formed
      simp only [MutationCall.WellFormed, firstFailure_cons, requireText_passes] at checks
      simp only [MutationCall.plan, IdeaRepository.feedbackPlan]
      refine Except.seq_returns.mpr ⟨(), validate_eq_ok.mpr formed, ?_⟩
      exact planForRecord_used tenant checks.1 used
  | recordConversionIntent q =>
      have checks := formed
      simp only [MutationCall.WellFormed, firstFailure_cons, requireText_passes] at checks
      simp only [MutationCall.plan, IdeaRepository.conversionPlan]
      refine Except.seq_returns.mpr ⟨(), validate_eq_ok.mpr formed, ?_⟩
      exact planForRecord_used tenant checks.1 used
  | recordConversionOutcome q =>
      obtain ⟨candidateId, leads, tenant⟩ := Option.bind_eq_some_iff.mp tenant
      have checks := formed
      simp only [MutationCall.WellFormed, firstFailure_cons, requireText_passes] at checks
      simp only [MutationCall.plan, IdeaRepository.outcomePlan, leads]
      refine Except.seq_returns.mpr ⟨(), validate_eq_ok.mpr formed, ?_⟩
      exact planForRecord_used tenant checks.1 used
  | recordReportEvidencePack q =>
      have checks := formed
      simp only [MutationCall.WellFormed, firstFailure_cons, requireText_passes] at checks
      simp only [MutationCall.plan, IdeaRepository.packPlan]
      refine Except.seq_returns.mpr ⟨(), validate_eq_ok.mpr formed, ?_⟩
      exact planForRecord_used tenant checks.1 used

theorem planForRecord_unscoped {candidateId idempotencyKey : String} {payload : Json}
    {unscoped : PyError}
    {next : CandidatePersistenceRecord → String → IdempotencyRecord → Except PyError MutationPlan}
    (tenant : s.tenantOf candidateId = none)
    (run : s.planForRecord candidateId idempotencyKey payload unscoped next = .ok plan) :
    ∃ result, plan = .answer result := by
  unfold IdeaRepository.planForRecord at run
  split at run
  · cases run
    exact ⟨_, rfl⟩
  rename_i record stored
  split at run
  · cases run
  rename_i scope scoping
  simp [IdeaRepository.tenantOf, stored, CandidatePersistenceRecord.tenantId, scoping] at tenant

/-- Without a tenant a mutation writes nothing. -/
theorem mutation_unscoped {c : MutationCall} (tenant : c.tenantIn s = none)
    (run : c.plan s = .ok plan) : ∃ result, plan = .answer result := by
  cases c with
  | persistCandidate q =>
      simp only [MutationCall.plan, IdeaRepository.persistPlan] at run
      obtain ⟨_, _, run⟩ := Except.seq_returns.mp run
      obtain ⟨own, authoritative, _⟩ := Except.seq_returns.mp run
      have unscoped := Option.map_eq_none_iff.mp tenant
      simp [IdeaRepository.requireAuthoritativeScope, unscoped] at authoritative
  | recordLifecycleTransition q =>
      simp only [MutationCall.plan, IdeaRepository.lifecyclePlan] at run
      obtain ⟨_, _, run⟩ := Except.seq_returns.mp run
      exact planForRecord_unscoped tenant run
  | recordReviewAction q =>
      simp only [MutationCall.plan, IdeaRepository.reviewPlan] at run
      obtain ⟨_, _, run⟩ := Except.seq_returns.mp run
      exact planForRecord_unscoped tenant run
  | recordFeedbackEvent q =>
      simp only [MutationCall.plan, IdeaRepository.feedbackPlan] at run
      obtain ⟨_, _, run⟩ := Except.seq_returns.mp run
      exact planForRecord_unscoped tenant run
  | recordConversionIntent q =>
      simp only [MutationCall.plan, IdeaRepository.conversionPlan] at run
      obtain ⟨_, _, run⟩ := Except.seq_returns.mp run
      exact planForRecord_unscoped tenant run
  | recordConversionOutcome q =>
      simp only [MutationCall.plan, IdeaRepository.outcomePlan] at run
      obtain ⟨_, _, run⟩ := Except.seq_returns.mp run
      split at run
      · cases run
        exact ⟨_, rfl⟩
      rename_i candidateId leads
      have unscoped : s.tenantOf candidateId = none := by
        simpa [MutationCall.tenantIn, leads] using tenant
      exact planForRecord_unscoped unscoped run
  | recordReportEvidencePack q =>
      simp only [MutationCall.plan, IdeaRepository.packPlan] at run
      obtain ⟨_, _, run⟩ := Except.seq_returns.mp run
      exact planForRecord_unscoped tenant run

end Plans

/-! ## Scopes of keys -/

inductive KeyScope where
  | tenant (tenantId idempotencyKey : String)
  | system (idempotencyKey : String)

def KeyScope.storageKey : KeyScope → String
  | .tenant tenantId idempotencyKey => tenantStorageKey tenantId idempotencyKey
  | .system idempotencyKey => systemStorageKey idempotencyKey

omit [Sha256] in
/-- Keys of different tenants, and of the system, are never stored under one text. -/
theorem KeyScope.storageKey_injective : Function.Injective KeyScope.storageKey := by
  intro first second same
  cases first with
  | tenant tenantId idempotencyKey =>
      cases second with
      | tenant tenantId' idempotencyKey' =>
          obtain ⟨rfl, rfl⟩ := tenantStorageKey_injective same
          rfl
      | system idempotencyKey' => exact absurd same (tenantStorageKey_ne_system _ _ _)
  | system idempotencyKey =>
      cases second with
      | tenant tenantId' idempotencyKey' =>
          exact absurd same.symm (tenantStorageKey_ne_system _ _ _)
      | system idempotencyKey' =>
          have lists := congrArg String.toList same
          simp only [KeyScope.storageKey, systemStorageKey, String.toList_append] at lists
          rw [String.toList_inj.mp (List.append_cancel_left lists)]

/-- The key that a call looks up, and may bind. -/
def RepositoryCall.keyScope (s : IdeaRepository) : RepositoryCall → Option KeyScope
  | .mutate c => (c.tenantIn s).map fun tenantId => .tenant tenantId c.request.idempotencyKey
  | .precheckReview q => some (.tenant q.tenantId q.idempotencyKey)
  | .precheckOutcome q => some (.tenant q.tenantId q.idempotencyKey)
  | .recordLineageRequest q key _ =>
      (s.tenantOf q.candidateId).map fun tenantId => .tenant tenantId key
  | .requestDeliveryRun key _ => some (.system key)
  | _ => none

/-! ## What a call binds -/

/-- The keys are as they were, or the call's own key, unused before, is bound. -/
inductive BindsOwnKey (s : IdeaRepository) (own : Option KeyScope) : IdeaRepository → Prop where
  | same {next : IdeaRepository} (records : next.idempotencyRecords = s.idempotencyRecords)
      (candidates : next.idempotencyCandidates = s.idempotencyCandidates) : BindsOwnKey s own next
  | bound {next : IdeaRepository} (scope : KeyScope) (isOwn : own = some scope)
      (unused : s.idempotencyRecords.get? scope.storageKey = none)
      (record : IdempotencyRecord)
      (records : next.idempotencyRecords = s.idempotencyRecords.set scope.storageKey record)
      (candidates : next.idempotencyCandidates = s.idempotencyCandidates ∨ ∃ candidateId,
        next.idempotencyCandidates = s.idempotencyCandidates.set scope.storageKey candidateId) :
      BindsOwnKey s own next

theorem mutate_bindsOwnKey (s : IdeaRepository) (c : MutationCall) :
    BindsOwnKey s ((RepositoryCall.mutate c).keyScope s) (s.mutate c).2 := by
  unfold IdeaRepository.mutate IdeaRepository.runPlan
  cases planned : c.plan s with
  | error raised => exact .same rfl rfl
  | ok plan =>
      cases tenant : c.tenantIn s with
      | none =>
          obtain ⟨result, rfl⟩ := mutation_unscoped tenant planned
          exact .same rfl rfl
      | some tenantId =>
          have own : (RepositoryCall.mutate c).keyScope s =
              some (.tenant tenantId c.request.idempotencyKey) := by
            simp only [RepositoryCall.keyScope, tenant, Option.map_some]
          cases mutation_keyed tenant planned with
          | used existing stored => exact .same rfl rfl
          | turnedAway result unused _ _ => exact .same rfl rfl
          | rebinds result candidateId unused =>
              exact .bound _ own unused _ rfl (Or.inr ⟨candidateId, rfl⟩)
          | accepts m unused storageKey record =>
              have written : BindsOwnKey s ((RepositoryCall.mutate c).keyScope s) (s.write m) := by
                refine .bound _ own unused m.idempotencyRecord ?_ (Or.inr ⟨m.candidateId, ?_⟩)
                · simp only [IdeaRepository.write, IdeaRepository.bindIdempotency, storageKey,
                    KeyScope.storageKey]
                · simp only [IdeaRepository.write, IdeaRepository.bindIdempotency, storageKey,
                    KeyScope.storageKey]
              simp only [IdeaRepository.commit]
              split
              · exact written
              · cases written with
                | same records candidates => exact .same records candidates
                | bound scope isOwn unused record records candidates =>
                    exact .bound scope isOwn unused record records candidates

theorem precheck_bindsOwnKey (s : IdeaRepository) {α : Type} (q : PrecheckRequest α)
    (seen : Option (Bool × CandidatePersistenceRecord)) (mismatch : PersistenceDecision) :
    BindsOwnKey s (some (.tenant q.tenantId q.idempotencyKey))
      (s.precheck q (IdeaRepository.identityPlan seen mismatch)).2 := by
  by_cases formed : PyText.isBlank q.tenantId = false ∧ PyText.isBlank q.idempotencyKey = false
  · have asked := precheck_cases s q seen mismatch formed.1 formed.2
    cases run : s.precheck q (IdeaRepository.identityPlan seen mismatch) with
    | mk answer next =>
        rw [run] at asked
        cases asked with
        | used existing stored => exact .same rfl rfl
        | replayed record unused found =>
            exact .bound (.tenant q.tenantId q.idempotencyKey) rfl unused _ rfl
              (Or.inr ⟨_, rfl⟩)
        | conflicting record unused found => exact .same rfl rfl
        | unseen unused absent => exact .same rfl rfl
  · unfold IdeaRepository.precheck
    split
    · exact .same rfl rfl
    split
    · exact .same rfl rfl
    · exact .same rfl rfl
    · exact absurd (admit_filled ‹_›) formed

theorem lineageRequest_bindsOwnKey (s : IdeaRepository) (q : LineageRequest) (key : String)
    (payload : Json) :
    BindsOwnKey s ((RepositoryCall.recordLineageRequest q key payload).keyScope s)
      (s.recordAIExplanationLineageRequest q key payload).2 := by
  have effect := lineageRequest_effect s q key payload
  cases run : s.recordAIExplanationLineageRequest q key payload with
  | mk answer next =>
      rw [run] at effect
      cases effect with
      | refused error => exact .same rfl rfl
      | notFound absent => exact .same rfl rfl
      | answered result record scope stored tenant admitted => exact .same rfl rfl
      | unbound result record scope storageKey ir stored tenant admitted planned =>
          exact .same rfl rfl
      | written lineage record updated scope storageKey ir tenant admitted accepted =>
          have fresh := admit_fresh admitted
          have stored := accepted.stored
          rw [accepted.candidateId] at stored
          have own : (RepositoryCall.recordLineageRequest q key payload).keyScope s =
              some (.tenant scope.val.tenantId key) := by
            simp [RepositoryCall.keyScope, IdeaRepository.tenantOf, stored,
              CandidatePersistenceRecord.tenantId, tenant]
          have unused := fresh.unseen
          rw [fresh.shape] at unused ⊢
          exact .bound _ own unused ir rfl (Or.inr ⟨q.candidateId, rfl⟩)

theorem deliveryRun_bindsOwnKey (s : IdeaRepository) (key : String) (payload : Json) :
    BindsOwnKey s (some (.system key)) (s.recordOutboxDeliveryRunRequest key payload).2 := by
  unfold IdeaRepository.recordOutboxDeliveryRunRequest
  split
  · exact .same rfl rfl
  · simp only
    split
    · rename_i record evaluated
      exact .bound (.system key) rfl (evaluateIdempotency_accepted evaluated) record rfl
        (Or.inl rfl)
    · exact .same rfl rfl

theorem step_bindsOwnKey (s : IdeaRepository) (c : RepositoryCall) :
    BindsOwnKey s (c.keyScope s) (s.step c) := by
  cases c with
  | mutate c => exact mutate_bindsOwnKey s c
  | transition q =>
      simp only [IdeaRepository.step]
      unfold IdeaRepository.transitionCandidate
      split
      · exact .same rfl rfl
      split
      · exact .same rfl rfl
      split
      · exact .same rfl rfl
      · exact .same rfl rfl
  | precheckReview q => exact precheck_bindsOwnKey s q _ _
  | precheckOutcome q => exact precheck_bindsOwnKey s q _ _
  | requestDeliveryRun key payload => exact deliveryRun_bindsOwnKey s key payload
  | deliver c => exact .same rfl rfl
  | recordLineage q =>
      have writes := lineage_effect s q
      simp only [IdeaRepository.step]
      cases run : s.recordAIExplanationLineage q with
      | mk answer next =>
          rw [run] at writes
          cases writes with
          | refused error => exact .same rfl rfl
          | answered result planned => exact .same rfl rfl
          | written lineage record updated accepted => exact .same rfl rfl
  | recordLineageRequest q key payload => exact lineageRequest_bindsOwnKey s q key payload
  | recordPresentation receipt =>
      obtain ⟨receipts, moved⟩ := presentation_frame s receipt
      simp only [IdeaRepository.step, moved]
      exact .same rfl rfl

section Bindings
variable {s next : IdeaRepository} {own : Option KeyScope}

/-- What is bound stays as it is bound. -/
theorem BindsOwnKey.kept (binds : BindsOwnKey s own next) {storageKey : String}
    {record : IdempotencyRecord} (held : s.idempotencyRecords.get? storageKey = some record) :
    next.idempotencyRecords.get? storageKey = some record ∧
      next.idempotencyCandidates.get? storageKey = s.idempotencyCandidates.get? storageKey := by
  cases binds with
  | same records candidates => exact ⟨by rw [records, held], by rw [candidates]⟩
  | bound scope isOwn unused fresh records candidates =>
      have different : storageKey ≠ scope.storageKey := by
        rintro rfl
        rw [held] at unused
        cases unused
      refine ⟨?_, ?_⟩
      · rw [records, Dict.get?_set_of_ne _ different, held]
      · rcases candidates with same | ⟨candidateId, set⟩
        · rw [same]
        · rw [set, Dict.get?_set_of_ne _ different]

/-- Every key but the call's own is left alone, bound or not. -/
theorem BindsOwnKey.others (binds : BindsOwnKey s own next) {scope : KeyScope}
    (other : own ≠ some scope) :
    next.idempotencyRecords.get? scope.storageKey =
        s.idempotencyRecords.get? scope.storageKey ∧
      next.idempotencyCandidates.get? scope.storageKey =
        s.idempotencyCandidates.get? scope.storageKey := by
  cases binds with
  | same records candidates => exact ⟨by rw [records], by rw [candidates]⟩
  | bound bound isOwn unused fresh records candidates =>
      have different : scope.storageKey ≠ bound.storageKey := by
        intro same
        exact other (by rw [isOwn, KeyScope.storageKey_injective same])
      refine ⟨?_, ?_⟩
      · rw [records, Dict.get?_set_of_ne _ different]
      · rcases candidates with same | ⟨candidateId, set⟩
        · rw [same]
        · rw [set, Dict.get?_set_of_ne _ different]

end Bindings

/-- A bound key outlasts every run. -/
theorem run_keeps_binding {s : IdeaRepository} {storageKey : String} {record : IdempotencyRecord}
    (held : s.idempotencyRecords.get? storageKey = some record) (calls : List RepositoryCall) :
    (s.run calls).idempotencyRecords.get? storageKey = some record ∧
      (s.run calls).idempotencyCandidates.get? storageKey =
        s.idempotencyCandidates.get? storageKey := by
  induction calls generalizing s with
  | nil => exact ⟨held, rfl⟩
  | cons call rest ih =>
      obtain ⟨now, candidate⟩ := (step_bindsOwnKey s call).kept held
      obtain ⟨later, further⟩ := ih now
      exact ⟨later, further.trans candidate⟩

end

end LotusIdea

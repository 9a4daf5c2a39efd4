import LotusIdea.Repository.KeyBinding
import LotusIdea.Repository.RecordedActions
import LotusIdea.Repository.RevokedAuthority

/-!
# Tenant isolation

Idempotency keys are a tenant's own; candidate ids and the ids of reviews,
feedback and outcomes are looked up over the records of every tenant.  What a
call answers for one tenant is therefore settled by that tenant's data, unless
its id or its key leads to a record of another tenant.
-/

set_option autoImplicit false

namespace LotusIdea

open IdeaRepository (PersistRequest ResultRequest PrecheckRequest)

section
variable [Sha256]

/-! ## Calls made for a tenant -/

inductive TenantCall where
  | persistCandidate (q : PersistRequest)
  | recordReviewAction (q : ResultRequest ReviewActionResult)
  | recordFeedbackEvent (q : ResultRequest FeedbackResult)
  | recordConversionOutcome (q : ResultRequest ConversionOutcomeResult)
  | precheckReview (q : PrecheckRequest ReviewMutationIdentity)
  | precheckOutcome (q : PrecheckRequest ConversionOutcomeIdentity)

/-- A precheck may leave its call unanswered. -/
def IdeaRepository.tenantAnswer (s : IdeaRepository) :
    TenantCall → Except PyError (Option PersistenceResult)
  | .persistCandidate q => (s.persistCandidate q).1.map some
  | .recordReviewAction q => (s.recordReviewAction q).1.map some
  | .recordFeedbackEvent q => (s.recordFeedbackEvent q).1.map some
  | .recordConversionOutcome q => (s.recordConversionOutcome q).1.map some
  | .precheckReview q => (s.precheckReviewMutation q).1
  | .precheckOutcome q => (s.precheckConversionOutcomeMutation q).1

namespace TenantCall

def Governed : TenantCall → Prop
  | .recordReviewAction q => (MutationCall.recordReviewAction q).Governed
  | _ => True

def idempotencyKey : TenantCall → String
  | .persistCandidate q => q.idempotencyKey
  | .recordReviewAction q => q.idempotencyKey
  | .recordFeedbackEvent q => q.idempotencyKey
  | .recordConversionOutcome q => q.idempotencyKey
  | .precheckReview q => q.idempotencyKey
  | .precheckOutcome q => q.idempotencyKey

/-- The tenant that a call is made for: the one it names, or that of its candidate. -/
def tenantIn (s : IdeaRepository) : TenantCall → Option String
  | .persistCandidate q => q.candidate.val.accessScope.map fun scope => scope.val.tenantId
  | .recordReviewAction q =>
      (s.candidateRecords.get? q.result.decision.val.candidateId).bind
        CandidatePersistenceRecord.tenantId
  | .recordFeedbackEvent q =>
      (s.candidateRecords.get? q.result.feedbackEvent.val.candidateId).bind
        CandidatePersistenceRecord.tenantId
  | .recordConversionOutcome q =>
      (s.conversionRecordForIntent q.result.conversionOutcome.val.conversionIntentId).bind
        fun found => found.2.tenantId
  | .precheckReview q => some q.tenantId
  | .precheckOutcome q => some q.tenantId

/-- The record that holds the id which the call brings. -/
def idHolder (s : IdeaRepository) : TenantCall → Option CandidatePersistenceRecord
  | .persistCandidate q => s.candidateRecords.get? q.candidate.val.candidateId
  | .recordReviewAction q =>
      (s.reviewIdentityRecord (reviewMutationIdentityFromDecision q.result.decision)).map Prod.snd
  | .recordFeedbackEvent q =>
      (s.reviewIdentityRecord (feedbackMutationIdentityFromEvent q.result.feedbackEvent)).map
        Prod.snd
  | .recordConversionOutcome q =>
      (s.conversionOutcomeIdentityRecord (GovernedConversionOutcome.identity
        q.result.conversionOutcome).conversionOutcomeId).map Prod.snd
  | .precheckReview q => (s.reviewIdentityRecord q.identity).map Prod.snd
  | .precheckOutcome q =>
      (s.conversionOutcomeIdentityRecord q.identity.conversionOutcomeId).map Prod.snd

/-- The id or the key of the call leads to a record of another tenant. -/
def LeadsAbroad (tenantId : String) (s : IdeaRepository) (c : TenantCall) : Prop :=
  ∃ record : CandidatePersistenceRecord, record.tenantId ≠ some tenantId ∧
    (c.idHolder s = some record ∨
      s.recordForStorageKey (tenantStorageKey tenantId c.idempotencyKey) = some record)

end TenantCall

/-- Two stores hold the same records, actions and keys of a tenant. -/
structure AgreeOn (tenantId : String) (s t : IdeaRepository) : Prop where
  records : ∀ id record, CandidatePersistenceRecord.tenantId record = some tenantId →
    (s.candidateRecords.get? id = some record ↔ t.candidateRecords.get? id = some record)
  intents : ∀ intentId found, CandidatePersistenceRecord.tenantId found.2 = some tenantId →
    (s.conversionRecordForIntent intentId = some found ↔
      t.conversionRecordForIntent intentId = some found)
  keys : ∀ key, s.idempotencyRecords.get? (tenantStorageKey tenantId key) =
    t.idempotencyRecords.get? (tenantStorageKey tenantId key)
  keyCandidates : ∀ key, s.idempotencyCandidates.get? (tenantStorageKey tenantId key) =
    t.idempotencyCandidates.get? (tenantStorageKey tenantId key)

/-! ## Lookups by id -/

/-- The identities that the reviews and the feedback of a record are known by. -/
def CandidatePersistenceRecord.reviewIdentities (r : CandidatePersistenceRecord) :
    List ReviewMutationIdentity :=
  r.decisions.map reviewMutationIdentityFromDecision ++
    r.feedback.map feedbackMutationIdentityFromEvent

theorem reviewIdentityRecord_eq_some {s : IdeaRepository} (unique : ActionIdsUnique s)
    {identity existing : ReviewMutationIdentity} {record : CandidatePersistenceRecord} :
    s.reviewIdentityRecord identity = some (existing, record) ↔
      ∃ key, s.candidateRecords.get? key = some record ∧ existing ∈ record.reviewIdentities ∧
        (decide (existing.mutationType = identity.mutationType) &&
          decide (existing.resourceId = identity.resourceId)) = true := by
  refine scan_eq_some_iff ?_
  intro key row stored a member isWanted other own there b also isWanted'
  simp only [Bool.and_eq_true, decide_eq_true_eq] at isWanted isWanted'
  have types : a.mutationType = b.mutationType := isWanted.1.trans isWanted'.1.symm
  have ids : a.resourceId = b.resourceId := isWanted.2.trans isWanted'.2.symm
  rcases List.mem_append.mp member with held | held <;>
    rcases List.mem_append.mp also with held' | held' <;>
    obtain ⟨first, own₁, rfl⟩ := List.mem_map.mp held <;>
    obtain ⟨second, own₂, rfl⟩ := List.mem_map.mp held'
  · obtain ⟨here, same⟩ := unique.decisions.same_action stored there own₁ own₂ ids
    exact ⟨here, by rw [same]⟩
  · cases types
  · cases types
  · obtain ⟨here, same⟩ := unique.feedback.same_action stored there own₁ own₂ ids
    exact ⟨here, by rw [same]⟩

theorem outcomeIdentityRecord_eq_some {s : IdeaRepository} (unique : ActionIdsUnique s)
    {conversionOutcomeId : String} {existing : ConversionOutcomeIdentity}
    {record : CandidatePersistenceRecord} :
    s.conversionOutcomeIdentityRecord conversionOutcomeId = some (existing, record) ↔
      ∃ key, s.candidateRecords.get? key = some record ∧
        existing ∈ record.outcomes.map GovernedConversionOutcome.identity ∧
        decide (existing.conversionOutcomeId = conversionOutcomeId) = true := by
  refine scan_eq_some_iff ?_
  intro key row stored a member isWanted other own there b also isWanted'
  obtain ⟨first, own₁, rfl⟩ := List.mem_map.mp member
  obtain ⟨second, own₂, rfl⟩ := List.mem_map.mp also
  have ids : first.id = second.id :=
    (of_decide_eq_true isWanted).trans (of_decide_eq_true isWanted').symm
  obtain ⟨here, same⟩ := unique.outcomes.same_action stored there own₁ own₂ ids
  exact ⟨here, by rw [same]⟩

/-! ## What two stores answer alike -/

omit [Sha256] in
/-- Two lookups that agree on what they both may find are one. -/
theorem lookup_eq {α : Type} (Own : α → Prop) {first second : Option α}
    (agree : ∀ a, Own a → (first = some a ↔ second = some a))
    (own : ∀ a, first = some a → Own a) (own' : ∀ a, second = some a → Own a) :
    first = second := by
  refine Option.ext fun a => ⟨?_, ?_⟩
  · intro found
    exact (agree a (own a found)).mp found
  · intro found
    exact (agree a (own' a found)).mpr found

omit [Sha256] in
/-- The answer of a plan does not depend on the store that carries it out. -/
theorem runPlan_answer [Sha256] (s t : IdeaRepository) (plan : Except PyError MutationPlan) :
    (s.runPlan plan).1 = (t.runPlan plan).1 := by
  cases plan with
  | error raised => rfl
  | ok plan =>
      cases plan with
      | answer result => rfl
      | rebind result storageKey idempotencyRecord candidateId => rfl
      | accept m =>
          simp only [IdeaRepository.runPlan, IdeaRepository.commit]
          cases m.event.build <;> rfl

/-- The records that lookups by key and by id lead to are those of the tenant. -/
structure AtHome (tenantId : String) (s : IdeaRepository) (c : TenantCall) : Prop where
  id : ∀ record, c.idHolder s = some record → record.tenantId = some tenantId
  key : ∀ record, s.recordForStorageKey (tenantStorageKey tenantId c.idempotencyKey) = some record →
    record.tenantId = some tenantId

theorem atHome_of_not_leadsAbroad {tenantId : String} {s : IdeaRepository} {c : TenantCall}
    (home : ¬ c.LeadsAbroad tenantId s) : AtHome tenantId s c where
  id := by
    intro record found
    by_contra abroad
    exact home ⟨record, abroad, Or.inl found⟩
  key := by
    intro record found
    by_contra abroad
    exact home ⟨record, abroad, Or.inr found⟩

namespace AgreeOn
variable {tenantId : String} {s t : IdeaRepository} {c : TenantCall}

theorem keyHolder (agree : AgreeOn tenantId s t) (home : AtHome tenantId s c)
    (home' : AtHome tenantId t c) :
    s.recordForStorageKey (tenantStorageKey tenantId c.idempotencyKey) =
      t.recordForStorageKey (tenantStorageKey tenantId c.idempotencyKey) := by
  refine lookup_eq (fun record : CandidatePersistenceRecord => record.tenantId = some tenantId) ?_ home.key home'.key
  intro record own
  simp only [IdeaRepository.recordForStorageKey, agree.keyCandidates, Option.bind_eq_some_iff,
    agree.records _ record own]

theorem admission (agree : AgreeOn tenantId s t) (home : AtHome tenantId s c)
    (home' : AtHome tenantId t c) (payload : Json) :
    s.admission tenantId c.idempotencyKey payload = t.admission tenantId c.idempotencyKey payload := by
  simp only [IdeaRepository.admission]
  cases named : tenantScopedIdempotencyIdentity tenantId c.idempotencyKey with
  | error raised => rfl
  | ok storageKey =>
      have shape := tenantScopedIdempotencyIdentity_eq named
      subst shape
      show Except.bind _ _ = Except.bind _ _
      simp only [Except.bind, agree.keys, agree.keyHolder home home']

theorem reviewIdentityRecord (agree : AgreeOn tenantId s t) (unique : ActionIdsUnique s)
    (unique' : ActionIdsUnique t) (identity : ReviewMutationIdentity)
    (home : ∀ record, (s.reviewIdentityRecord identity).map Prod.snd = some record →
      record.tenantId = some tenantId)
    (home' : ∀ record, (t.reviewIdentityRecord identity).map Prod.snd = some record →
      record.tenantId = some tenantId) :
    s.reviewIdentityRecord identity = t.reviewIdentityRecord identity := by
  refine lookup_eq (fun found => found.2.tenantId = some tenantId) ?_ ?_ ?_
  · rintro ⟨existing, record⟩ own
    rw [reviewIdentityRecord_eq_some unique, reviewIdentityRecord_eq_some unique']
    simp only [agree.records _ record own]
  · intro found scan
    exact home found.2 (by rw [scan]; rfl)
  · intro found scan
    exact home' found.2 (by rw [scan]; rfl)

theorem outcomeIdentityRecord (agree : AgreeOn tenantId s t) (unique : ActionIdsUnique s)
    (unique' : ActionIdsUnique t) (conversionOutcomeId : String)
    (home : ∀ record, (s.conversionOutcomeIdentityRecord conversionOutcomeId).map Prod.snd =
      some record → record.tenantId = some tenantId)
    (home' : ∀ record, (t.conversionOutcomeIdentityRecord conversionOutcomeId).map Prod.snd =
      some record → record.tenantId = some tenantId) :
    s.conversionOutcomeIdentityRecord conversionOutcomeId =
      t.conversionOutcomeIdentityRecord conversionOutcomeId := by
  refine lookup_eq (fun found => found.2.tenantId = some tenantId) ?_ ?_ ?_
  · rintro ⟨existing, record⟩ own
    rw [outcomeIdentityRecord_eq_some unique, outcomeIdentityRecord_eq_some unique']
    simp only [agree.records _ record own]
  · intro found scan
    exact home found.2 (by rw [scan]; rfl)
  · intro found scan
    exact home' found.2 (by rw [scan]; rfl)

theorem planForRecord (agree : AgreeOn tenantId s t) (home : AtHome tenantId s c)
    (home' : AtHome tenantId t c) (idempotencyKey : String)
    (isKey : idempotencyKey = c.idempotencyKey) {candidateId : String} {payload : Json} {unscoped : PyError}
    {next next' : CandidatePersistenceRecord → String → IdempotencyRecord →
      Except PyError MutationPlan} (same : next = next')
    (made : (s.candidateRecords.get? candidateId).bind CandidatePersistenceRecord.tenantId =
      some tenantId) :
    s.planForRecord candidateId idempotencyKey payload unscoped next =
      t.planForRecord candidateId idempotencyKey payload unscoped next' := by
  subst same isKey
  obtain ⟨record, stored, own⟩ := Option.bind_eq_some_iff.mp made
  have stored' := (agree.records candidateId record own).mp stored
  obtain ⟨scope, tenant, named⟩ := Option.map_eq_some_iff.mp own
  subst named
  simp only [IdeaRepository.planForRecord, stored, stored', tenant,
    agree.admission home home' payload]

theorem precheck (agree : AgreeOn tenantId s t) (home : AtHome tenantId s c)
    (home' : AtHome tenantId t c) {α : Type} {q : PrecheckRequest α}
    (tenant : q.tenantId = tenantId) (key : q.idempotencyKey = c.idempotencyKey)
    {seen seen' : String → IdempotencyRecord → Option MutationPlan} (same : seen = seen') :
    (s.precheck q seen).1 = (t.precheck q seen').1 := by
  subst same
  simp only [IdeaRepository.precheck, tenant, key, agree.admission home home' q.payload]
  cases validate [requireText c.idempotencyKey "idempotency_key"] with
  | error raised => rfl
  | ok _ =>
      cases t.admission tenantId c.idempotencyKey q.payload with
      | error raised => rfl
      | ok admission =>
          cases admission with
          | answered result => rfl
          | fresh storageKey idempotencyRecord =>
              cases planned : seen storageKey idempotencyRecord with
              | none => simp only [planned]
              | some plan =>
                  have alike := runPlan_answer s t (.ok plan)
                  simp only [IdeaRepository.runPlan] at alike
                  simp only [planned, alike]

/-- A call that stays with its tenant's records is answered alike. -/
theorem answer (agree : AgreeOn tenantId s t) (unique : ActionIdsUnique s)
    (unique' : ActionIdsUnique t) (made : c.tenantIn s = some tenantId)
    (home : AtHome tenantId s c) (home' : AtHome tenantId t c) :
    s.tenantAnswer c = t.tenantAnswer c := by
  have mutation : ∀ plan plan', plan = plan' →
      (s.runPlan plan).1.map some = (t.runPlan plan').1.map some := by
    rintro plan _ rfl
    rw [runPlan_answer s t plan]
  cases c with
  | persistCandidate q =>
      refine mutation _ _ ?_
      have holder : s.candidateRecords.get? q.candidate.val.candidateId =
          t.candidateRecords.get? q.candidate.val.candidateId :=
        lookup_eq (fun record : CandidatePersistenceRecord => record.tenantId = some tenantId)
          (fun record own => agree.records _ record own) home.id home'.id
      obtain ⟨scope, tenant, named⟩ := Option.map_eq_some_iff.mp made
      have admitted : s.admission scope.val.tenantId q.idempotencyKey q.payload =
          t.admission scope.val.tenantId q.idempotencyKey q.payload := by
        rw [named]
        exact agree.admission home home' q.payload
      have isScope : ∀ own, IdeaRepository.requireAuthoritativeScope q.candidate = .ok own →
          own = scope := by
        intro own required
        simp only [IdeaRepository.requireAuthoritativeScope, tenant] at required
        split at required <;> cases required
        rfl
      simp only [IdeaRepository.persistPlan]
      cases required : IdeaRepository.requireAuthoritativeScope q.candidate with
      | error raised => rfl
      | ok own =>
          cases isScope own required
          simp only [bind, Except.bind, admitted, holder]
  | recordReviewAction q =>
      refine mutation _ _ ?_
      have scan := agree.reviewIdentityRecord unique unique' _ home.id home'.id
      have seen : s.reviewIdentityPlan (reviewMutationIdentityFromDecision q.result.decision) =
          t.reviewIdentityPlan (reviewMutationIdentityFromDecision q.result.decision) := by
        simp only [IdeaRepository.reviewIdentityPlan, scan]
      simp only [IdeaRepository.reviewPlan]
      rw [agree.planForRecord home home' q.idempotencyKey rfl rfl made, seen]
  | recordFeedbackEvent q =>
      refine mutation _ _ ?_
      have scan := agree.reviewIdentityRecord unique unique' _ home.id home'.id
      have seen : s.reviewIdentityPlan (feedbackMutationIdentityFromEvent q.result.feedbackEvent) =
          t.reviewIdentityPlan (feedbackMutationIdentityFromEvent q.result.feedbackEvent) := by
        simp only [IdeaRepository.reviewIdentityPlan, scan]
      simp only [IdeaRepository.feedbackPlan]
      rw [agree.planForRecord home home' q.idempotencyKey rfl rfl made, seen]
  | recordConversionOutcome q =>
      refine mutation _ _ ?_
      have scan : s.conversionOutcomeIdentityRecord
            (GovernedConversionOutcome.identity q.result.conversionOutcome).conversionOutcomeId =
          t.conversionOutcomeIdentityRecord
            (GovernedConversionOutcome.identity q.result.conversionOutcome).conversionOutcomeId :=
        agree.outcomeIdentityRecord unique unique' _ home.id home'.id
      have seen : s.outcomeNextPlan q = t.outcomeNextPlan q := by
        funext candidateId record storageKey idempotencyRecord
        simp only [IdeaRepository.outcomeNextPlan, IdeaRepository.outcomeIdentityPlan, scan]
      obtain ⟨⟨candidateId, record⟩, leads, own⟩ := Option.bind_eq_some_iff.mp made
      have leads' := (agree.intents _ _ own).mp leads
      obtain ⟨id, first, found⟩ := Option.bind_eq_some_iff.mp leads
      obtain ⟨_, stored, pair⟩ := Option.map_eq_some_iff.mp found
      cases pair
      obtain ⟨id', first', found'⟩ := Option.bind_eq_some_iff.mp leads'
      obtain ⟨_, stored', pair'⟩ := Option.map_eq_some_iff.mp found'
      cases pair'
      have planned : s.planForRecord candidateId q.idempotencyKey q.payload
            IdeaRepository.unscopedPersistence (s.outcomeNextPlan q candidateId) =
          t.planForRecord candidateId q.idempotencyKey q.payload
            IdeaRepository.unscopedPersistence (t.outcomeNextPlan q candidateId) :=
        agree.planForRecord home home' q.idempotencyKey rfl (by rw [seen])
          (by rw [stored]; exact own)
      simp only [IdeaRepository.outcomePlan, first, first', planned]
  | precheckReview q =>
      have scan := agree.reviewIdentityRecord unique unique' _ home.id home'.id
      have seen : s.reviewIdentityPlan q.identity = t.reviewIdentityPlan q.identity := by
        simp only [IdeaRepository.reviewIdentityPlan, scan]
      exact agree.precheck home home' (Option.some.inj made) rfl seen
  | precheckOutcome q =>
      have scan := agree.outcomeIdentityRecord unique unique' _ home.id home'.id
      have seen : s.outcomeIdentityPlan q.identity = t.outcomeIdentityPlan q.identity := by
        simp only [IdeaRepository.outcomeIdentityPlan, scan]
      exact agree.precheck home home' (Option.some.inj made) rfl seen

end AgreeOn

/-! ## Whose record is answered -/

def PersistenceResult.AtHome (tenantId : String) (result : PersistenceResult) : Prop :=
  ∀ record, result.record = some record → CandidatePersistenceRecord.tenantId record = some tenantId

def MutationPlan.AtHome (tenantId : String) : MutationPlan → Prop
  | .answer result => result.AtHome tenantId
  | .rebind result _ _ _ => result.AtHome tenantId
  | .accept m => m.record.tenantId = some tenantId

section Home
variable {tenantId : String} {s : IdeaRepository} {c : TenantCall}

theorem commit_atHome {plan : MutationPlan} (home : plan.AtHome tenantId)
    {result : PersistenceResult} (run : (s.commit plan).1 = .ok result) :
    result.AtHome tenantId := by
  cases plan with
  | answer answered =>
      cases run
      exact home
  | rebind answered storageKey idempotencyRecord candidateId =>
      cases run
      exact home
  | accept m =>
      simp only [IdeaRepository.commit] at run
      split at run
      · cases run
      · cases run
        intro record returned
        cases returned
        exact home

theorem identityPlan_atHome {existing : Option (Bool × CandidatePersistenceRecord)}
    {mismatch : PersistenceDecision} {storageKey : String} {idempotencyRecord : IdempotencyRecord}
    {plan : MutationPlan}
    (home : ∀ record, existing.map Prod.snd = some record → record.tenantId = some tenantId)
    (seen : IdeaRepository.identityPlan existing mismatch storageKey idempotencyRecord =
      some plan) : plan.AtHome tenantId := by
  unfold IdeaRepository.identityPlan at seen
  obtain ⟨⟨same, holder⟩, found, made⟩ := Option.map_eq_some_iff.mp seen
  have own := home holder (by rw [found]; rfl)
  cases same with
  | true =>
      cases made
      intro record returned
      cases returned
      exact own
  | false =>
      cases made
      intro record returned
      cases returned
      exact own

/-- An accepted mutation leaves its candidate with the tenant it had. -/
theorem accepted_tenant {c : MutationCall} {m : AcceptedMutation}
    {old : CandidatePersistenceRecord} (governed : c.Governed)
    (planned : c.plan s = .ok (.accept m))
    (stored : s.candidateRecords.get? m.candidateId = some old) :
    m.record.tenantId = old.tenantId := by
  have accepted : Accepted s c m := plan_sound planned
  have step := accepted.changes
  rw [stored] at step
  have kept := step.accessScope (c := .mutate c) governed
  rw [CandidatePersistenceRecord.tenantId, kept]
  rfl

theorem admit_answered_record {idempotencyKey : String} {payload : Json}
    {result : PersistenceResult}
    (run : s.admission tenantId idempotencyKey payload = .ok (.answered result)) :
    result.record = s.recordForStorageKey (tenantStorageKey tenantId idempotencyKey) := by
  simp only [IdeaRepository.admission] at run
  obtain ⟨key, named, run⟩ := Except.seq_returns.mp run
  cases tenantScopedIdempotencyIdentity_eq named
  split at run
  · cases run
    rfl
  · cases run
    rfl
  · cases run

/-- A mutation of a candidate of the tenant, whose own answers are at home. -/
theorem planForRecord_atHome (home : AtHome tenantId s c) {candidateId idempotencyKey : String}
    {payload : Json} {unscoped : PyError}
    {next : CandidatePersistenceRecord → String → IdempotencyRecord → Except PyError MutationPlan}
    {record : CandidatePersistenceRecord} {plan : MutationPlan}
    (isKey : idempotencyKey = c.idempotencyKey) (filled : PyText.isBlank idempotencyKey = false)
    (stored : s.candidateRecords.get? candidateId = some record)
    (own : record.tenantId = some tenantId)
    (goesOn : ∀ storageKey idempotencyRecord,
      next record storageKey idempotencyRecord = .ok plan → plan.AtHome tenantId)
    (run : s.planForRecord candidateId idempotencyKey payload unscoped next = .ok plan) :
    plan.AtHome tenantId := by
  subst isKey
  cases planForRecord_cases filled run with
  | notFound absent =>
      intro record returned
      cases returned
  | answered found scope existing stored' tenant used =>
      rw [stored] at stored'
      cases stored'
      have named : scope.val.tenantId = tenantId := by
        simpa [CandidatePersistenceRecord.tenantId, tenant] using own
      rw [named]
      exact home.key
  | goesOn found scope _ stored' tenant fresh planned =>
      rw [stored] at stored'
      cases stored'
      exact goesOn _ _ planned

theorem persist_atHome {q : PersistRequest} (home : AtHome tenantId s (.persistCandidate q))
    (made : (TenantCall.persistCandidate q).tenantIn s = some tenantId) {plan : MutationPlan}
    (run : s.persistPlan q = .ok plan) : plan.AtHome tenantId := by
  obtain ⟨scope, tenant, named⟩ := Option.map_eq_some_iff.mp made
  have existingHome : ∀ existing,
      s.candidateRecords.get? q.candidate.val.candidateId = some existing →
      existing.tenantId = some tenantId := home.id
  simp only [IdeaRepository.persistPlan] at run
  obtain ⟨_, _, run⟩ := Except.seq_returns.mp run
  obtain ⟨own, authoritative, run⟩ := Except.seq_returns.mp run
  obtain ⟨_, _, run⟩ := Except.seq_returns.mp run
  obtain ⟨admission, admitted, run⟩ := Except.seq_returns.mp run
  have isScope : own = scope := by
    simp only [IdeaRepository.requireAuthoritativeScope, tenant] at authoritative
    split at authoritative <;> cases authoritative
    rfl
  subst isScope
  cases admission with
  | answered result =>
      cases run
      intro record returned
      refine home.key record ?_
      rw [← named]
      exact (admit_answered_record admitted).symm.trans returned
  | fresh storageKey idempotencyRecord =>
      cases stored : s.candidateRecords.get? q.candidate.val.candidateId with
      | none =>
          simp only [stored, IdeaRepository.createPlan] at run
          obtain ⟨auditEvent, _, run⟩ := Except.seq_returns.mp run
          obtain ⟨entry, told, run⟩ := Except.seq_returns.mp run
          obtain ⟨record, created, run⟩ := Except.seq_returns.mp run
          cases run
          simp only [MutationPlan.AtHome, CandidatePersistenceRecord.tenantId,
            Checked.make_eq_ok.mp created]
          exact made
      | some existing =>
          have own := existingHome existing stored
          simp only [stored, IdeaRepository.reconcilePlan] at run
          obtain ⟨reconciliation, reconciled, run⟩ := Except.seq_returns.mp run
          rcases reconcileCandidate_cases reconciled with
            rfl | rfl | ⟨next, held, same, later, accepting⟩
          · cases run
            intro record returned
            cases returned
            exact own
          · cases run
            intro record returned
            cases returned
            exact own
          · rcases accepting with decided | decided | decided
            all_goals
              simp only [decided, held, reduceCtorEq, if_false, IdeaRepository.reconciledPlan]
                at run
              obtain ⟨eventType, _, run⟩ := Except.seq_returns.mp run
              obtain ⟨auditEvent, _, run⟩ := Except.seq_returns.mp run
              obtain ⟨entry, told, run⟩ := Except.seq_returns.mp run
              obtain ⟨record, created, run⟩ := Except.seq_returns.mp run
              cases run
              simp only [MutationPlan.AtHome, CandidatePersistenceRecord.tenantId,
                Checked.make_eq_ok.mp created, later.accessScope]
              exact own

theorem review_atHome {q : ResultRequest ReviewActionResult}
    (home : AtHome tenantId s (.recordReviewAction q))
    (governed : (TenantCall.recordReviewAction q).Governed)
    (made : (TenantCall.recordReviewAction q).tenantIn s = some tenantId) {plan : MutationPlan}
    (run : s.reviewPlan q = .ok plan) : plan.AtHome tenantId := by
  obtain ⟨record, stored, own⟩ := Option.bind_eq_some_iff.mp made
  cases isPlan : plan with
  | accept m =>
      rw [isPlan] at run
      obtain ⟨writes, _⟩ := mutation_writes (c := .recordReviewAction q) run
      cases writes with
      | reviewed _ old history named stored' =>
          rw [MutationPlan.AtHome, accepted_tenant (c := .recordReviewAction q) governed run
            stored']
          rw [named, stored] at stored'
          cases stored'
          exact own
  | answer result | rebind result _ _ _ =>
      rw [← isPlan]
      simp only [IdeaRepository.reviewPlan] at run
      obtain ⟨_, passed, run⟩ := Except.seq_returns.mp run
      have checks := validate_eq_ok.mp passed
      simp only [firstFailure_cons, requireText_passes] at checks
      refine planForRecord_atHome home rfl checks.1 stored own ?_ run
      intro storageKey idempotencyRecord planned
      split at planned
      · rename_i seen
        cases planned
        refine identityPlan_atHome ?_ seen
        intro holder found
        refine home.id holder ?_
        simpa [TenantCall.idHolder] using found
      · simp only [IdeaRepository.reviewedPlan] at planned
        obtain ⟨_, _, planned⟩ := Except.seq_returns.mp planned
        obtain ⟨_, _, planned⟩ := Except.seq_returns.mp planned
        obtain ⟨_, _, planned⟩ := Except.seq_returns.mp planned
        cases planned
        cases isPlan

theorem feedback_atHome {q : ResultRequest FeedbackResult}
    (home : AtHome tenantId s (.recordFeedbackEvent q))
    (made : (TenantCall.recordFeedbackEvent q).tenantIn s = some tenantId) {plan : MutationPlan}
    (run : s.feedbackPlan q = .ok plan) : plan.AtHome tenantId := by
  obtain ⟨record, stored, own⟩ := Option.bind_eq_some_iff.mp made
  cases isPlan : plan with
  | accept m =>
      rw [isPlan] at run
      obtain ⟨writes, _⟩ := mutation_writes (c := .recordFeedbackEvent q) run
      cases writes with
      | feedback _ old named stored' =>
          rw [MutationPlan.AtHome, accepted_tenant (c := .recordFeedbackEvent q) trivial run
            stored']
          rw [named, stored] at stored'
          cases stored'
          exact own
  | answer result | rebind result _ _ _ =>
      rw [← isPlan]
      simp only [IdeaRepository.feedbackPlan] at run
      obtain ⟨_, passed, run⟩ := Except.seq_returns.mp run
      have checks := validate_eq_ok.mp passed
      simp only [firstFailure_cons, requireText_passes] at checks
      refine planForRecord_atHome home rfl checks.1 stored own ?_ run
      intro storageKey idempotencyRecord planned
      split at planned
      · rename_i seen
        cases planned
        refine identityPlan_atHome ?_ seen
        intro holder found
        refine home.id holder ?_
        simpa [TenantCall.idHolder] using found
      · simp only [IdeaRepository.feedbackRecordedPlan] at planned
        obtain ⟨_, _, planned⟩ := Except.seq_returns.mp planned
        cases planned
        cases isPlan

theorem outcome_atHome {q : ResultRequest ConversionOutcomeResult}
    (home : AtHome tenantId s (.recordConversionOutcome q))
    (made : (TenantCall.recordConversionOutcome q).tenantIn s = some tenantId)
    {plan : MutationPlan} (run : s.outcomePlan q = .ok plan) : plan.AtHome tenantId := by
  obtain ⟨⟨candidateId, record⟩, leads, own⟩ := Option.bind_eq_some_iff.mp made
  obtain ⟨id, named, found⟩ := Option.bind_eq_some_iff.mp leads
  obtain ⟨_, stored, pair⟩ := Option.map_eq_some_iff.mp found
  cases pair
  cases isPlan : plan with
  | accept m =>
      rw [isPlan] at run
      obtain ⟨writes, _⟩ := mutation_writes (c := .recordConversionOutcome q) run
      cases writes with
      | outcome _ old named' stored' =>
          rw [MutationPlan.AtHome, accepted_tenant (c := .recordConversionOutcome q) trivial run
            stored']
          rw [named] at named'
          cases named'
          rw [stored] at stored'
          cases stored'
          exact own
  | answer result | rebind result _ _ _ =>
      rw [← isPlan]
      simp only [IdeaRepository.outcomePlan, named] at run
      obtain ⟨_, passed, run⟩ := Except.seq_returns.mp run
      have checks := validate_eq_ok.mp passed
      simp only [firstFailure_cons, requireText_passes] at checks
      refine planForRecord_atHome home rfl checks.1 stored own ?_ run
      intro storageKey idempotencyRecord planned
      unfold IdeaRepository.outcomeNextPlan at planned
      split at planned
      · rename_i seen
        cases planned
        refine identityPlan_atHome ?_ seen
        intro holder found
        refine home.id holder ?_
        simpa [TenantCall.idHolder] using found
      split at planned
      · cases planned
        intro holder returned
        cases returned
        exact own
      · simp only [IdeaRepository.outcomeAcceptedPlan] at planned
        obtain ⟨_, _, planned⟩ := Except.seq_returns.mp planned
        cases planned
        cases isPlan

theorem precheck_atHome (home : AtHome tenantId s c) {α : Type} {q : PrecheckRequest α}
    {seen : String → IdempotencyRecord → Option MutationPlan} (tenant : q.tenantId = tenantId)
    (isKey : q.idempotencyKey = c.idempotencyKey)
    (found : ∀ storageKey idempotencyRecord plan,
      seen storageKey idempotencyRecord = some plan → plan.AtHome tenantId)
    {result : PersistenceResult} (run : (s.precheck q seen).1 = .ok (some result)) :
    result.AtHome tenantId := by
  unfold IdeaRepository.precheck at run
  split at run
  · cases run
  split at run
  · cases run
  · rename_i answered admitted
    cases run
    rw [tenant, isKey] at admitted
    intro record returned
    exact home.key record ((admit_answered_record admitted).symm.trans returned)
  split at run
  · cases run
  · rename_i plan planned
    have answers : (s.commit plan).1.map some = .ok (some result) := run
    cases committed : (s.commit plan).1 with
    | error raised =>
        rw [committed] at answers
        cases answers
    | ok answered =>
        rw [committed] at answers
        cases answers
        exact commit_atHome (found _ _ plan planned) committed

/-- A call that stays with its tenant's records answers none of another tenant. -/
theorem answer_atHome (governed : c.Governed) (made : c.tenantIn s = some tenantId)
    (home : AtHome tenantId s c) {result : PersistenceResult}
    (run : s.tenantAnswer c = .ok (some result)) : result.AtHome tenantId := by
  have mutation : ∀ plan, (∀ p, plan = .ok p → p.AtHome tenantId) →
      (s.runPlan plan).1.map some = .ok (some result) → result.AtHome tenantId := by
    intro plan planned answered
    cases plan with
    | error raised => cases answered
    | ok plan =>
        cases committed : (s.runPlan (.ok plan)).1 with
        | error raised =>
            rw [committed] at answered
            cases answered
        | ok returned =>
            rw [committed] at answered
            cases answered
            exact commit_atHome (planned plan rfl) committed
  cases c with
  | persistCandidate q => exact mutation _ (fun p planned => persist_atHome home made planned) run
  | recordReviewAction q =>
      exact mutation _ (fun p planned => review_atHome home governed made planned) run
  | recordFeedbackEvent q =>
      exact mutation _ (fun p planned => feedback_atHome home made planned) run
  | recordConversionOutcome q =>
      exact mutation _ (fun p planned => outcome_atHome home made planned) run
  | precheckReview q =>
      refine precheck_atHome home (Option.some.inj made) rfl ?_ run
      intro storageKey idempotencyRecord plan seen
      refine identityPlan_atHome ?_ seen
      intro holder found
      refine home.id holder ?_
      simpa [TenantCall.idHolder] using found
  | precheckOutcome q =>
      refine precheck_atHome home (Option.some.inj made) rfl ?_ run
      intro storageKey idempotencyRecord plan seen
      refine identityPlan_atHome ?_ seen
      intro holder found
      refine home.id holder ?_
      simpa [TenantCall.idHolder] using found

end Home

/-- Everything stored belongs to `other`, under these keys. -/
def holdsOnlyOf (other : String) (keys : List String) (s : IdeaRepository) : Bool :=
  s.candidateRecords.values.all (fun record => decide (record.tenantId = some other)) &&
    decide (s.idempotencyRecords.keys = keys.map (tenantStorageKey other)) &&
    decide (s.idempotencyCandidates.keys = keys.map (tenantStorageKey other))

theorem agreeOn_of_holdsOnlyOf {tenantId other : String} {keys : List String} {t : IdeaRepository}
    (different : tenantId ≠ other) (holds : holdsOnlyOf other keys t = true) :
    AgreeOn tenantId IdeaRepository.empty t := by
  simp only [holdsOnlyOf, Bool.and_eq_true, List.all_eq_true, decide_eq_true_eq] at holds
  obtain ⟨⟨records, keyRecords⟩, keyCandidates⟩ := holds
  have foreign : ∀ id record, CandidatePersistenceRecord.tenantId record = some tenantId →
      t.candidateRecords.get? id ≠ some record := by
    intro id record own stored
    rw [records record (Dict.mem_values_of_get? stored)] at own
    exact different (Option.some.inj own).symm
  have unbound : ∀ key, tenantStorageKey tenantId key ∉ keys.map (tenantStorageKey other) := by
    intro key member
    obtain ⟨held, _, same⟩ := List.mem_map.mp member
    exact different (tenantStorageKey_injective same).1.symm
  constructor
  · intro id record own
    simp [IdeaRepository.empty, foreign id record own]
  · intro intentId found own
    refine ⟨fun leads => ?_, fun leads => ?_⟩
    · simp [IdeaRepository.empty, IdeaRepository.conversionRecordForIntent] at leads
    · obtain ⟨id, _, here⟩ := Option.bind_eq_some_iff.mp leads
      obtain ⟨record, stored, rfl⟩ := Option.map_eq_some_iff.mp here
      exact absurd stored (foreign id record own)
  · intro key
    have absent := unbound key
    rw [← keyRecords, ← Dict.get?_eq_none_iff] at absent
    rw [absent]
    rfl
  · intro key
    have absent := unbound key
    rw [← keyCandidates, ← Dict.get?_eq_none_iff] at absent
    rw [absent]
    rfl

def sampleUseful : Except PyError FeedbackResult := do
  let command ← Checked.make FeedbackCommandFields.checks
    { feedbackId := "feedback-1", actor := sampleOperator, outcome := .useful, reason := .relevant
      taxonomyVersion := "idea-feedback-taxonomy-v1", recordedAtUtc := .utc 20 }
  recordFeedback (sampleCandidate false) command (.utc 20) sampleReviewPolicy

/-- A candidate of the first tenant is persisted and receives feedback. -/
def sampleForeign : List RepositoryCall :=
  samplePersist "persist-1" false 10 :: recording "feedback-1" .recordFeedbackEvent sampleUseful

theorem sampleForeign_governed : ∀ c ∈ sampleForeign, c.Governed := by
  refine List.forall_mem_cons.mpr ⟨trivial, recording_governed ?_⟩
  intro q run
  trivial

/-- Feedback of the second tenant on a candidate of its own. -/
def sampleAsked (feedbackId : String) : PrecheckRequest ReviewMutationIdentity where
  tenantId := "tenant-b"
  idempotencyKey := "feedback-1"
  payload := .obj []
  identity :=
    { mutationType := .feedbackEvent, resourceId := feedbackId, candidateId := "idea-2"
      evidencePacketId := "packet-2", evidenceContentHash := sampleDigest 'b'
      actorSubject := "advisor-2", actorRole := .advisor, eventName := "useful"
      reasonCodes := [], occurredAtUtc := .utc 20 }

/-- The answer names a record of `other` as the holder of the id. -/
def answersForeign (other : String) : Except PyError (Option PersistenceResult) → Bool
  | .ok (some result) =>
      decide (result.decision = .identityConflict) &&
        result.record.any fun record => decide (record.tenantId = some other)
  | _ => false

def answersNothing : Except PyError (Option PersistenceResult) → Bool
  | .ok none => true
  | _ => false

end

section Sample

local instance isolationSha256 : Sha256 := Sha256.zeros

set_option maxRecDepth 10000 in
theorem sampleForeign_holds :
    (answersNothing (IdeaRepository.empty.tenantAnswer
        (.precheckReview (sampleAsked "feedback-1"))) &&
      holdsOnlyOf "tenant-a" ["persist-1", "feedback-1"] (IdeaRepository.empty.run sampleForeign) &&
      answersForeign "tenant-a" ((IdeaRepository.empty.run sampleForeign).tenantAnswer
        (.precheckReview (sampleAsked "feedback-1")))) = true := by
  decide +kernel

set_option maxRecDepth 10000 in
theorem sampleUnused_home :
    (((TenantCall.precheckReview (sampleAsked "feedback-2")).idHolder
      (IdeaRepository.empty.run sampleForeign)).isNone &&
      ((IdeaRepository.empty.run sampleForeign).recordForStorageKey
        (tenantStorageKey "tenant-b" "feedback-1")).isNone) = true := by
  decide +kernel

end Sample

end LotusIdea

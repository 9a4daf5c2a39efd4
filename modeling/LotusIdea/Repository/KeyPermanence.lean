import LotusIdea.Repository.KeyBinding
import LotusIdea.Repository.RevokedAuthority

/-!
# Keys that bind for ever

A call that is accepted or replayed leaves its key bound, so that every later
call of the tenant under that key replays or conflicts and leaves no trace.  One
call does not: a keyed lineage request whose request was recorded under another
key replays without binding its own.
-/

set_option autoImplicit false

namespace LotusIdea

open IdeaRepository (ResultRequest PrecheckRequest LineageRequest)

section
variable [Sha256]

/-! ## Keyed calls -/

/-- The calls under a tenant's key. -/
inductive KeyedCall where
  | mutate (c : MutationCall)
  | precheckReview (q : PrecheckRequest ReviewMutationIdentity)
  | precheckOutcome (q : PrecheckRequest ConversionOutcomeIdentity)
  | lineage (q : LineageRequest) (idempotencyKey : String) (payload : Json)

namespace KeyedCall

def toCall : KeyedCall → RepositoryCall
  | .mutate c => .mutate c
  | .precheckReview q => .precheckReview q
  | .precheckOutcome q => .precheckOutcome q
  | .lineage q key payload => .recordLineageRequest q key payload

def idempotencyKey : KeyedCall → String
  | .mutate c => c.request.idempotencyKey
  | .precheckReview q => q.idempotencyKey
  | .precheckOutcome q => q.idempotencyKey
  | .lineage _ key _ => key

def payload : KeyedCall → Json
  | .mutate c => c.request.payload
  | .precheckReview q => q.payload
  | .precheckOutcome q => q.payload
  | .lineage _ _ payload => payload

def tenantIn (s : IdeaRepository) : KeyedCall → Option String
  | .mutate c => c.tenantIn s
  | .precheckReview q => some q.tenantId
  | .precheckOutcome q => some q.tenantId
  | .lineage q _ _ => s.tenantOf q.candidateId

/-- The arguments pass the checks made before the key is read. -/
def WellFormed : KeyedCall → Prop
  | .mutate c => c.WellFormed
  | .precheckReview q =>
      PyText.isBlank q.tenantId = false ∧ PyText.isBlank q.idempotencyKey = false
  | .precheckOutcome q =>
      PyText.isBlank q.tenantId = false ∧ PyText.isBlank q.idempotencyKey = false
  | .lineage _ key _ => PyText.isBlank key = false

/-- A lineage request under an unused key, for a request that is recorded already. -/
def UnboundReplay (s : IdeaRepository) : KeyedCall → Prop
  | .lineage q key _ =>
      (∃ tenantId, s.tenantOf q.candidateId = some tenantId ∧
        s.idempotencyRecords.get? (tenantStorageKey tenantId key) = none) ∧
      (s.aiExplanationLineageCandidates.get? q.result.request.requestId).isSome
  | _ => False

end KeyedCall

/-- The disposition that a keyed call is answered with; a precheck may leave it open. -/
def IdeaRepository.keyedAnswer (s : IdeaRepository) :
    KeyedCall → Except PyError (Option PersistenceDecision)
  | .mutate c => (s.mutate c).1.map fun result => some result.decision
  | .precheckReview q =>
      (s.precheckReviewMutation q).1.map fun answer => answer.map PersistenceResult.decision
  | .precheckOutcome q =>
      (s.precheckConversionOutcomeMutation q).1.map fun answer =>
        answer.map PersistenceResult.decision
  | .lineage q key payload =>
      (s.recordAIExplanationLineageRequest q key payload).1.map fun result => some result.decision

/-! ## Calls under a used key -/

section Used
variable {s : IdeaRepository} {tenantId : String} {existing : IdempotencyRecord}

theorem precheck_used {α : Type} {q : PrecheckRequest α}
    (seen : Option (Bool × CandidatePersistenceRecord)) (mismatch : PersistenceDecision)
    (tenant : PyText.isBlank q.tenantId = false) (filled : PyText.isBlank q.idempotencyKey = false)
    (used : s.idempotencyRecords.get? (tenantStorageKey q.tenantId q.idempotencyKey) =
      some existing) :
    s.precheck q (IdeaRepository.identityPlan seen mismatch) =
      (.ok (some ⟨storedAnswer existing q.idempotencyKey q.payload,
        s.recordForStorageKey (tenantStorageKey q.tenantId q.idempotencyKey), none⟩), s) := by
  have asked := precheck_cases s q seen mismatch tenant filled
  cases run : s.precheck q (IdeaRepository.identityPlan seen mismatch) with
  | mk answer next =>
      rw [run] at asked
      cases asked with
      | used own stored =>
          rw [used] at stored
          cases stored
          rfl
      | replayed record unused _ | conflicting record unused _ | unseen unused _ =>
          rw [used] at unused
          cases unused

theorem lineageRequest_used {q : LineageRequest} {key : String} {payload : Json}
    (filled : PyText.isBlank key = false) (tenant : s.tenantOf q.candidateId = some tenantId)
    (used : s.idempotencyRecords.get? (tenantStorageKey tenantId key) = some existing) :
    s.recordAIExplanationLineageRequest q key payload =
      (.ok (IdeaRepository.lineageAnswer q ⟨storedAnswer existing key payload,
        s.recordForStorageKey (tenantStorageKey tenantId key), none⟩), s) := by
  obtain ⟨record, stored, named⟩ := Option.bind_eq_some_iff.mp tenant
  obtain ⟨scope, scoping, rfl⟩ := Option.map_eq_some_iff.mp named
  have passed : validate [requireText key "idempotency_key"] = .ok () := by
    simp [validate_eq_ok, filled]
  simp only [IdeaRepository.recordAIExplanationLineageRequest, stored, scoping, passed,
    admit_eq s payload (scope_tenant_not_blank scope) filled, used]

/-- Under a used key a call is answered from what is stored and changes nothing. -/
theorem used_answer {d : KeyedCall} (formed : d.WellFormed) (tenant : d.tenantIn s = some tenantId)
    (used : s.idempotencyRecords.get? (tenantStorageKey tenantId d.idempotencyKey) =
      some existing) :
    s.keyedAnswer d = .ok (some (storedAnswer existing d.idempotencyKey d.payload)) ∧
      s.step d.toCall = s := by
  cases d with
  | mutate c =>
      have planned := mutation_used formed tenant used
      simp only [IdeaRepository.keyedAnswer, KeyedCall.toCall, IdeaRepository.step,
        IdeaRepository.mutate, planned]
      exact ⟨rfl, rfl⟩
  | precheckReview q =>
      cases Option.some.inj tenant
      have answered := precheck_used (s.reviewSeen q.identity) .identityConflict formed.1
        formed.2 used
      simp only [IdeaRepository.keyedAnswer, KeyedCall.toCall, IdeaRepository.step,
        IdeaRepository.precheckReviewMutation, IdeaRepository.reviewIdentityPlan]
      simp only [IdeaRepository.reviewSeen] at answered
      rw [answered]
      exact ⟨rfl, rfl⟩
  | precheckOutcome q =>
      cases Option.some.inj tenant
      have answered := precheck_used (s.outcomeSeen q.identity) .outcomeConflict formed.1
        formed.2 used
      simp only [IdeaRepository.keyedAnswer, KeyedCall.toCall, IdeaRepository.step,
        IdeaRepository.precheckConversionOutcomeMutation, IdeaRepository.outcomeIdentityPlan]
      simp only [IdeaRepository.outcomeSeen] at answered
      rw [answered]
      exact ⟨rfl, rfl⟩
  | lineage q key payload =>
      simp only [IdeaRepository.keyedAnswer, KeyedCall.toCall, IdeaRepository.step,
        lineageRequest_used formed tenant used, and_true]
      rfl

end Used

/-! ## Calls that bind -/

/-- The dispositions that report the action as recorded, now or earlier. -/
def PersistenceDecision.confirms (d : PersistenceDecision) : Prop :=
  d.isAccepting = true ∨ d = .replayed

theorem storedAnswer_reports {existing : IdempotencyRecord} {idempotencyKey : String}
    {payload : Json} (reports : (storedAnswer existing idempotencyKey payload).confirms) :
    existing = keyRecord idempotencyKey payload := by
  by_cases same : existing = keyRecord idempotencyKey payload
  · exact same
  · rw [storedAnswer, if_neg same] at reports
    rcases reports with accepting | replayed
    · cases accepting
    · cases replayed

/-- An answer of the lineage plan that reports its action found the request recorded. -/
theorem lineagePlan_reports {s : IdeaRepository} {q : LineageRequest}
    {result : AIExplanationLineagePersistenceResult}
    (run : s.lineagePlan q = .ok (.answer result)) (reports : result.decision.confirms) :
    result.decision = .replayed ∧
      (s.aiExplanationLineageCandidates.get? q.result.request.requestId).isSome := by
  simp only [IdeaRepository.lineagePlan] at run
  obtain ⟨lineage, built, run⟩ := Except.seq_returns.mp run
  have named : lineage.val.requestId = q.result.request.requestId := by
    simp only [aiExplanationLineageRecordFromResult] at built
    obtain ⟨_, _, built⟩ := Except.seq_returns.mp built
    rw [Checked.make_eq_ok.mp built]
    rfl
  have conflicts : ¬ PersistenceDecision.conflict.confirms := by
    rintro (accepting | replayed)
    · cases accepting
    · cases replayed
  split at run
  · cases run
    rcases reports with accepting | replayed
    · cases accepting
    · cases replayed
  split at run
  · cases run
    exact absurd reports conflicts
  split at run
  · cases run
    exact absurd reports conflicts
  split at run
  · rename_i existing found
    split at run
    · cases run
      rw [named] at found
      exact ⟨rfl, by rw [found]; rfl⟩
    · cases run
      exact absurd reports conflicts
  · obtain ⟨kept, _, run⟩ := Except.seq_returns.mp run
    cases run

section Binds
variable {s : IdeaRepository} {tenantId : String} {decision : PersistenceDecision}

theorem mutate_binds {c : MutationCall} (tenant : c.tenantIn s = some tenantId)
    (answered : s.keyedAnswer (.mutate c) = .ok (some decision))
    (reports : decision.confirms) :
    (s.mutate c).2.idempotencyRecords.get? (tenantStorageKey tenantId c.request.idempotencyKey) =
      some (keyRecord c.request.idempotencyKey c.request.payload) := by
  simp only [IdeaRepository.keyedAnswer, IdeaRepository.mutate, IdeaRepository.runPlan] at answered ⊢
  cases planned : c.plan s with
  | error raised =>
      rw [planned] at answered
      cases answered
  | ok plan =>
      rw [planned] at answered
      cases mutation_keyed tenant planned with
      | used existing stored =>
          cases answered
          simp only [IdeaRepository.commit]
          rw [stored, storedAnswer_reports reports]
      | turnedAway result unused refuses anew =>
          cases answered
          rcases reports with accepting | replayed
          · rw [refuses] at accepting
            cases accepting
          · exact absurd replayed anew
      | rebinds result candidateId unused =>
          simp only [IdeaRepository.commit, IdeaRepository.bindIdempotency, Dict.get?_set_self]
      | accepts m unused storageKey record =>
          have written : (s.write m).idempotencyRecords.get?
              (tenantStorageKey tenantId c.request.idempotencyKey) =
                some (keyRecord c.request.idempotencyKey c.request.payload) := by
            simp only [IdeaRepository.write, IdeaRepository.bindIdempotency, storageKey, record,
              Dict.get?_set_self]
          simp only [IdeaRepository.commit]
          split
          · exact written
          · exact written

theorem precheck_binds {α : Type} {q : PrecheckRequest α}
    {seen : Option (Bool × CandidatePersistenceRecord)} {mismatch : PersistenceDecision}
    (refuses : ¬ mismatch.confirms)
    (answered : (s.precheck q (IdeaRepository.identityPlan seen mismatch)).1.map
      (fun answer => answer.map PersistenceResult.decision) = .ok (some decision))
    (reports : decision.confirms) :
    (s.precheck q (IdeaRepository.identityPlan seen mismatch)).2.idempotencyRecords.get?
        (tenantStorageKey q.tenantId q.idempotencyKey) =
      some (keyRecord q.idempotencyKey q.payload) := by
  by_cases formed : PyText.isBlank q.tenantId = false ∧ PyText.isBlank q.idempotencyKey = false
  · have asked := precheck_cases s q seen mismatch formed.1 formed.2
    cases run : s.precheck q (IdeaRepository.identityPlan seen mismatch) with
    | mk answer next =>
        rw [run] at asked answered
        cases asked with
        | used existing stored =>
            cases answered
            rw [stored, storedAnswer_reports reports]
        | replayed record unused found =>
            simp only [IdeaRepository.bindIdempotency, Dict.get?_set_self]
        | conflicting record unused found =>
            cases answered
            exact absurd reports refuses
        | unseen unused absent => cases answered
  · -- a blank key or tenant raises
    exfalso
    unfold IdeaRepository.precheck at answered
    split at answered
    · cases answered
    split at answered
    · cases answered
    · exact formed (admit_filled ‹_›)
    · exact formed (admit_filled ‹_›)

theorem lineage_binds {q : LineageRequest} {key : String} {payload : Json}
    (tenant : s.tenantOf q.candidateId = some tenantId)
    (answered : s.keyedAnswer (.lineage q key payload) = .ok (some decision))
    (reports : decision.confirms)
    (bound : ¬ (KeyedCall.lineage q key payload).UnboundReplay s) :
    (s.recordAIExplanationLineageRequest q key payload).2.idempotencyRecords.get?
        (tenantStorageKey tenantId key) = some (keyRecord key payload) := by
  obtain ⟨held, stored, named⟩ := Option.bind_eq_some_iff.mp tenant
  obtain ⟨scope, scoping, rfl⟩ := Option.map_eq_some_iff.mp named
  have effect := lineageRequest_effect s q key payload
  simp only [IdeaRepository.keyedAnswer] at answered
  cases run : s.recordAIExplanationLineageRequest q key payload with
  | mk answer next =>
      rw [run] at effect answered
      cases effect with
      | refused error => cases answered
      | notFound absent =>
          rw [stored] at absent
          cases absent
      | answered result record own stored' tenant' admitted =>
          rw [stored] at stored'
          cases stored'
          rw [scoping] at tenant'
          cases tenant'
          rw [admit_eq s payload (scope_tenant_not_blank scope) (admit_filled admitted).2]
            at admitted
          cases found : s.idempotencyRecords.get? (tenantStorageKey scope.val.tenantId key) with
          | none =>
              rw [found] at admitted
              cases admitted
          | some existing =>
              rw [found] at admitted
              cases admitted
              cases answered
              rw [storedAnswer_reports reports]
      | unbound result record own storageKey ir stored' tenant' admitted planned =>
          rw [stored] at stored'
          cases stored'
          rw [scoping] at tenant'
          cases tenant'
          have fresh := admit_fresh admitted
          have unused := fresh.unseen
          rw [fresh.shape] at unused
          cases answered
          exact absurd ⟨⟨_, tenant, unused⟩, (lineagePlan_reports planned reports).2⟩ bound
      | written lineage record updated own storageKey ir tenant' admitted accepted =>
          have stored' := accepted.stored
          rw [accepted.candidateId, stored] at stored'
          cases stored'
          rw [scoping] at tenant'
          cases tenant'
          obtain ⟨fresh, recorded⟩ := admit_fresh_record admitted
          rw [fresh.shape, recorded]
          simp only [IdeaRepository.bindIdempotency, Dict.get?_set_self]

end Binds

/-- A call that reports its action leaves its key bound, an unbound replay aside. -/
theorem reporting_call_binds {s : IdeaRepository} {c : KeyedCall} {tenantId : String}
    {decision : PersistenceDecision} (tenant : c.tenantIn s = some tenantId)
    (answered : s.keyedAnswer c = .ok (some decision)) (reports : decision.confirms)
    (bound : ¬ c.UnboundReplay s) :
    (s.step c.toCall).idempotencyRecords.get? (tenantStorageKey tenantId c.idempotencyKey) =
      some (keyRecord c.idempotencyKey c.payload) := by
  have conflicts : ∀ d : PersistenceDecision, d = .identityConflict ∨ d = .outcomeConflict →
      ¬ d.confirms := by
    rintro d (rfl | rfl) (accepting | replayed)
    · cases accepting
    · cases replayed
    · cases accepting
    · cases replayed
  cases c with
  | mutate c => exact mutate_binds tenant answered reports
  | precheckReview q =>
      cases Option.some.inj tenant
      exact precheck_binds (conflicts _ (Or.inl rfl)) answered reports
  | precheckOutcome q =>
      cases Option.some.inj tenant
      exact precheck_binds (conflicts _ (Or.inr rfl)) answered reports
  | lineage q key payload => exact lineage_binds tenant answered reports bound

/-! ## Later calls -/

/-- From this state on, whatever is called in between, the tenant's calls under the
key are replayed for the payload and conflict for any other, and leave no trace. -/
def KeyHolds (s : IdeaRepository) (tenantId idempotencyKey : String) (payload : Json) : Prop :=
  ∀ (calls : List RepositoryCall) (d : KeyedCall), d.WellFormed →
    d.tenantIn (s.run calls) = some tenantId → d.idempotencyKey = idempotencyKey →
    (s.run calls).keyedAnswer d =
        .ok (some (if d.payload.dumps = payload.dumps then .replayed else .conflict)) ∧
      (s.run calls).step d.toCall = s.run calls

theorem keyHolds_of_bound (collisionFree : Sha256.CollisionFree 64) {s : IdeaRepository}
    {tenantId idempotencyKey : String} {payload : Json}
    (bound : s.idempotencyRecords.get? (tenantStorageKey tenantId idempotencyKey) =
      some (keyRecord idempotencyKey payload)) : KeyHolds s tenantId idempotencyKey payload := by
  intro calls d formed tenant sameKey
  subst sameKey
  have held := (run_keeps_binding bound calls).1
  obtain ⟨answer, unchanged⟩ := used_answer formed tenant held
  refine ⟨?_, unchanged⟩
  rw [answer]
  by_cases same : d.payload.dumps = payload.dumps
  · simp only [storedAnswer, keyRecord, idempotencyPayloadHash, same, if_true]
  · have differ : keyRecord d.idempotencyKey payload ≠ keyRecord d.idempotencyKey d.payload := by
      intro equal
      simp only [keyRecord, idempotencyPayloadHash, IdempotencyRecord.mk.injEq, true_and] at equal
      exact same (collisionFree equal).symm
    simp only [storedAnswer, if_neg differ, if_neg same]

omit [Sha256] in
/-- A payload within a list is written differently from the list. -/
theorem dumps_singleton_ne (payload : Json) : (Json.arr [payload]).dumps ≠ payload.dumps := by
  intro same
  have lists := congrArg String.toList same
  simp only [Json.dumps, String.toList_ofList, Json.dump, Json.dumpItems, Json.joined] at lists
  have lengths := congrArg List.length lists
  simp at lengths
  omega

/-- The replay that binds nothing is answered again for another payload. -/
theorem unbound_replay_repeats {s : IdeaRepository} {q : LineageRequest} {key : String}
    {payload : Json} {tenantId : String} {decision : PersistenceDecision}
    (tenant : s.tenantOf q.candidateId = some tenantId)
    (answered : s.keyedAnswer (.lineage q key payload) = .ok (some decision))
    (reports : decision.confirms)
    (unbound : (KeyedCall.lineage q key payload).UnboundReplay s) :
    s.step (.recordLineageRequest q key payload) = s ∧ PyText.isBlank key = false ∧
      ∀ other, s.keyedAnswer (.lineage q key other) ≠ .ok (some .conflict) := by
  obtain ⟨⟨own, ofOwn, unused⟩, recorded⟩ := unbound
  rw [tenant] at ofOwn
  cases ofOwn
  obtain ⟨held, stored, named⟩ := Option.bind_eq_some_iff.mp tenant
  obtain ⟨scope, scoping, rfl⟩ := Option.map_eq_some_iff.mp named
  have effect := lineageRequest_effect s q key payload
  simp only [IdeaRepository.keyedAnswer, IdeaRepository.step] at answered ⊢
  -- the key is unused and the request recorded, so that the plan answers
  have planned : (s.recordAIExplanationLineageRequest q key payload).2 = s ∧
      PyText.isBlank key = false ∧ ∃ result, s.lineagePlan q = .ok (.answer result) ∧
        result.decision = .replayed := by
    cases run : s.recordAIExplanationLineageRequest q key payload with
    | mk answer next =>
        rw [run] at effect answered
        cases effect with
        | refused error => cases answered
        | notFound absent =>
            rw [stored] at absent
            cases absent
        | answered result record own stored' tenant' admitted =>
            rw [stored] at stored'
            cases stored'
            rw [scoping] at tenant'
            cases tenant'
            rw [admit_eq s payload (scope_tenant_not_blank scope) (admit_filled admitted).2,
              unused] at admitted
            cases admitted
        | unbound result record own storageKey ir _ _ admitted planned =>
            cases answered
            exact ⟨rfl, (admit_filled admitted).2, result, planned,
              (lineagePlan_reports planned reports).1⟩
        | written lineage record updated own storageKey ir tenant' admitted accepted =>
            have unseen := accepted.unseen
            rw [accepted.requestId] at unseen
            rw [unseen] at recorded
            cases recorded
  obtain ⟨same, filled, result, planned, replayed⟩ := planned
  refine ⟨same, filled, ?_⟩
  intro other conflict
  have effect := lineageRequest_effect s q key other
  cases run : s.recordAIExplanationLineageRequest q key other with
  | mk answer next =>
      rw [run] at effect conflict
      cases effect with
      | refused error => cases conflict
      | notFound absent => cases conflict
      | answered result record own stored' tenant' admitted =>
          rw [stored] at stored'
          cases stored'
          rw [scoping] at tenant'
          cases tenant'
          rw [admit_eq s other (scope_tenant_not_blank scope) filled, unused] at admitted
          cases admitted
      | unbound again record own storageKey ir _ _ admitted planned' =>
          rw [planned] at planned'
          cases planned'
          rw [Except.map, replayed] at conflict
          cases conflict
      | written lineage record updated own storageKey ir tenant' admitted accepted =>
          cases conflict

def sampleExplanationAudit : AuditEvent where
  val :=
    { eventType := "idea.ai_explanation.evaluated", actorSubject := "advisor-1"
      outcome := "accepted", occurredAtUtc := .utc 20, attributes := [] }
  valid := by decide +kernel

/-- A deterministic fallback, which needs no receipt. -/
def sampleExplanation : LineageRequest where
  result :=
    { request :=
        { requestId := "explanation-1", actorSubject := "advisor-1"
          workflowPack := ⟨"idea_explanation.pack", "v1", .advisorRationaleDraft⟩
          redactedEvidence :=
            { candidateId := "idea-1", evidencePacketId := "packet-1"
              evidenceContentHash := sampleDigest 'c'
              sourceRevisionVectorDigest := sampleDigest 'b', sourceCutPosture := .coherent }
          requestedAtUtc := .utc 20 }
      posture := .fallbackUsed, verifierOutcome := .notRun, reasonCodes := [.highCashRatio]
      auditEvent := sampleExplanationAudit
      outputIntegrity := ⟨⟨"v1", sampleDigest 'a'⟩, by decide +kernel⟩
      executionProvenancePosture := .notApplicableFallback
      fallbackReason := some .aiUnavailable }

/-- The explanation is recorded under one key and asked for under another. -/
def sampleExplained : List RepositoryCall :=
  [samplePersist "persist-1" false 10,
   .recordLineageRequest sampleExplanation "lineage-1" (.obj [])]

def sampleSecondKey (payload : Json) : KeyedCall :=
  .lineage sampleExplanation "lineage-2" payload

def answersReplayed : Except PyError (Option PersistenceDecision) → Bool
  | .ok (some .replayed) => true
  | _ => false

theorem eq_of_answersReplayed {answer : Except PyError (Option PersistenceDecision)}
    (replayed : answersReplayed answer = true) : answer = .ok (some .replayed) := by
  unfold answersReplayed at replayed
  split at replayed
  · rfl
  · cases replayed

/-- A store in which one key of a tenant is bound. -/
def sampleBound : IdeaRepository :=
  IdeaRepository.empty.bindIdempotency (tenantStorageKey "tenant-a" "key-1")
    (keyRecord "key-1" (.obj [])) "idea-1"

def sampleRetry : PrecheckRequest ReviewMutationIdentity where
  tenantId := "tenant-a"
  idempotencyKey := "key-1"
  payload := .obj []
  identity :=
    { mutationType := .feedbackEvent, resourceId := "feedback-1", candidateId := "idea-1"
      evidencePacketId := "packet-1", evidenceContentHash := sampleDigest 'c'
      actorSubject := "advisor-1", actorRole := .advisor, eventName := "useful"
      reasonCodes := [], occurredAtUtc := .utc 20 }

theorem sampleRetry_replayed :
    sampleBound.keyedAnswer (.precheckReview sampleRetry) = .ok (some .replayed) := by
  have used : sampleBound.idempotencyRecords.get? (tenantStorageKey "tenant-a" "key-1") =
      some (keyRecord "key-1" (.obj [])) := Dict.get?_set_self _ _ _
  have answer := (used_answer (d := .precheckReview sampleRetry) ⟨by decide, by decide⟩ rfl used).1
  rw [answer]
  simp [storedAnswer, KeyedCall.idempotencyKey, KeyedCall.payload, sampleRetry]

end

section Sample

local instance permanenceSha256 : Sha256 := Sha256.zeros

set_option maxRecDepth 10000 in
theorem sampleSecondKey_replays :
    let s := IdeaRepository.empty.run sampleExplained
    (decide ((sampleSecondKey (.obj [])).tenantIn s = some "tenant-a") &&
      answersReplayed (s.keyedAnswer (sampleSecondKey (.obj []))) &&
      decide ((sampleSecondKey (.arr [])).tenantIn
        (s.step (sampleSecondKey (.obj [])).toCall) = some "tenant-a") &&
      answersReplayed ((s.step (sampleSecondKey (.obj [])).toCall).keyedAnswer
        (sampleSecondKey (.arr [])))) = true := by
  decide +kernel

end Sample

section Witness

local instance extendedSha256 : Sha256 := Sha256.extended []

end Witness

end LotusIdea

import LotusIdea.Application.Commands

/-!
# Workflows over the repository

The six workflow functions of the application.  Each reads the candidate,
checks the caller, asks the repository whether the command was answered before,
and only then lets the domain decide; it returns the persisted action together
with the repository it leaves.
-/

set_option autoImplicit false

namespace LotusIdea

/-- The five results without a grant have this shape. -/
structure WorkflowResult (α : Type) where
  action : Option α
  persistence : PersistenceResult

/-- `ReviewWorkflowResult`. -/
structure ReviewWorkflowResult extends WorkflowResult GovernedReviewDecision where
  reviewAuthorityGrant : Option ReviewAuthorityGrant := none

def notFoundResult : PersistenceResult := ⟨.notFound, none, none⟩

/-- `candidate_tenant_id`. -/
def candidateTenantId (record : CandidatePersistenceRecord) : Except PyError String :=
  match record.val.candidate.val.accessScope with
  | none => .error (.valueError "persisted candidate tenant scope is unavailable")
  | some scope => .ok scope.val.tenantId

/-- The access check of the lifecycle, conversion and report workflows. -/
def accessScopeCheck (filter : Option QueueAccessScopeFilter) (record : CandidatePersistenceRecord)
    (denied : PyError) : Bool × PyError :=
  (!filter.any fun asked => asked.covers record.val.candidate.val.accessScope, denied)

/-- `_review_authority_for_conversion`. -/
def grantsOfReview (reviewId : String) :
    List GovernedReviewDecision → Except PyError (List ReviewAuthorityGrant)
  | [] => .ok []
  | decision :: rest =>
      if decision.val.reviewId = reviewId then do
        let held ← decision.authorityGrant
        let others ← grantsOfReview reviewId rest
        return held.toList ++ others
      else grantsOfReview reviewId rest

def reviewAuthorityForConversion (record : CandidatePersistenceRecord)
    (c : RequestConversionIntentToRepositoryCommand) : Except PyError ReviewAuthorityGrant := do
  match ← grantsOfReview c.val.conversion.val.expectedReviewId record.val.reviewDecisions with
  | [grant] => return grant
  | _ => throw (.invalidConversionIntent c.val.candidateId
      "exact approved review authority is not available")

section Workflows
variable [Sha256]

namespace IdeaRepository

/-! ## Lookups and prechecks without a write -/

/-- `conversion_intent_by_id`. -/
def conversionIntentById (s : IdeaRepository) (conversionIntentId : String) :
    Option GovernedConversionIntent :=
  (s.conversionRecordForIntent conversionIntentId).bind fun (_, record) =>
    record.val.conversionIntents.find? fun intent =>
      intent.val.intent.val.conversionIntentId = conversionIntentId

/-- `candidate_record_for_conversion_intent`. -/
def candidateRecordForConversionIntent (s : IdeaRepository) (conversionIntentId : String) :
    Option CandidatePersistenceRecord :=
  (s.conversionIntentCandidates.get? conversionIntentId).bind s.candidateRecords.get?

/-- `conversion_outcomes_for_intent`. -/
def conversionOutcomesForIntent (s : IdeaRepository) (conversionIntentId : String) :
    List GovernedConversionOutcome :=
  (s.candidateRecordForConversionIntent conversionIntentId).elim [] fun record =>
    record.val.conversionOutcomes.filter fun outcome =>
      outcome.val.conversionIntentId = conversionIntentId

/-- `report_evidence_pack_by_id`. -/
def reportEvidencePackById (s : IdeaRepository) (reportEvidencePackId : String) :
    Option GovernedReportEvidencePack :=
  ((s.reportEvidencePackCandidates.get? reportEvidencePackId).bind
    s.candidateRecords.get?).bind fun record =>
      record.val.reportEvidencePacks.find? fun pack =>
        pack.val.reportEvidencePackId = reportEvidencePackId

/-- `candidate_record_for_report_evidence_pack`. -/
def candidateRecordForReportEvidencePack (s : IdeaRepository) (reportEvidencePackId : String) :
    Option CandidatePersistenceRecord :=
  (s.reportEvidencePackCandidates.get? reportEvidencePackId).bind s.candidateRecords.get?

/-- `precheck_conversion_mutation` and `precheck_evidence_pack_mutation`: the
answer for a key that is stored. -/
def precheckStoredKey (s : IdeaRepository) (tenantId idempotencyKey : String) (payload : Json) :
    Except PyError (Option PersistenceResult) := do
  validate [requireText idempotencyKey "idempotency_key"]
  match ← s.admission tenantId idempotencyKey payload with
  | .answered result => return some result
  | .fresh _ _ => return none

def precheckConversionMutation (s : IdeaRepository) (tenantId idempotencyKey : String)
    (payload : Json) : Except PyError (Option PersistenceResult) :=
  s.precheckStoredKey tenantId idempotencyKey payload

def precheckEvidencePackMutation (s : IdeaRepository) (tenantId idempotencyKey : String)
    (payload : Json) : Except PyError (Option PersistenceResult) :=
  s.precheckStoredKey tenantId idempotencyKey payload

/-! ## Reviews -/

/-- The result of `apply_review_action_to_repository` for a repository answer. -/
def reviewWorkflowResult (c : ApplyReviewActionToRepositoryCommand)
    (persistence : PersistenceResult) : Except PyError ReviewWorkflowResult := do
  let decision ← persistedReviewDecision c persistence
  let grant ← persistedReviewAuthority c persistence
  return { action := decision, persistence := persistence, reviewAuthorityGrant := grant }

/-- The presentation receipt that a Workbench review names. -/
def reviewPresentationReceipt (s : IdeaRepository) (record : CandidatePersistenceRecord)
    (c : ApplyReviewActionToRepositoryCommand) :
    Except PyError (Option CandidatePresentationReceipt) :=
  if c.val.review.val.reviewChannel = .workbench then
    match record.val.candidate.val.accessScope, c.val.review.val.presentationReceiptId with
    | none, _ => .error (.reviewAuthorityConflict "candidate scope is unavailable")
    | some _, none => .error .assertionError
    | some scope, some receiptId =>
        match s.presentationReceiptById receiptId record.val.candidate.val.candidateId
            scope.val.tenantId with
        | none => .error (.reviewAuthorityConflict
            "presentation receipt is unavailable in the candidate scope")
        | some receipt => .ok (some receipt)
  else .ok none

/-- The domain's decision on a review that was not answered before. -/
def reviewDecided (s : IdeaRepository) (record : CandidatePersistenceRecord)
    (c : ApplyReviewActionToRepositoryCommand) (policy : ReviewActionPolicy) :
    Except PyError ReviewActionResult := do
  let receipt ← s.reviewPresentationReceipt record c
  applyReviewAction record.val.candidate c.val.review c.val.acceptedAtUtc receipt policy

def applyReviewActionToRepository (s : IdeaRepository) (c : ApplyReviewActionToRepositoryCommand)
    (policy : ReviewActionPolicy) : Except PyError ReviewWorkflowResult × IdeaRepository :=
  match s.candidateRecords.get? c.val.candidateId with
  | none => (.ok { action := none, persistence := notFoundResult }, s)
  | some record =>
      match validate (reviewActorChecks record.val.candidate c.val.review policy) with
      | .error raised => (.error raised, s)
      | .ok _ =>
          match candidateTenantId record with
          | .error raised => (.error raised, s)
          | .ok tenantId =>
              match s.precheckReviewMutation
                  { tenantId := tenantId
                    idempotencyKey := c.val.idempotencyKey
                    payload := reviewPayload c
                    identity :=
                      reviewMutationIdentityFromCommand record.val.candidate c.val.review } with
              | (.error raised, next) => (.error raised, next)
              | (.ok (some prechecked), next) => (reviewWorkflowResult c prechecked, next)
              | (.ok none, next) =>
                  match next.reviewDecided record c policy with
                  | .error raised => (.error raised, next)
                  | .ok result =>
                      match next.recordReviewAction
                          { idempotencyKey := c.val.idempotencyKey
                            payload := reviewPayload c
                            eventLineage := c.val.eventLineage
                            result := result } with
                      | (.error raised, final) => (.error raised, final)
                      | (.ok persistence, final) => (reviewWorkflowResult c persistence, final)

/-! ## Feedback -/

def feedbackWorkflowResult (c : RecordFeedbackToRepositoryCommand)
    (persistence : PersistenceResult) : Except PyError (WorkflowResult GovernedFeedbackEvent) := do
  let event ← persistedFeedbackEvent c persistence
  return ⟨event, persistence⟩

/-- The actor is checked by the domain, after the precheck. -/
def recordFeedbackToRepository (s : IdeaRepository) (c : RecordFeedbackToRepositoryCommand)
    (policy : ReviewActionPolicy) :
    Except PyError (WorkflowResult GovernedFeedbackEvent) × IdeaRepository :=
  match s.candidateRecords.get? c.val.candidateId with
  | none => (.ok ⟨none, notFoundResult⟩, s)
  | some record =>
      match candidateTenantId record with
      | .error raised => (.error raised, s)
      | .ok tenantId =>
          match s.precheckReviewMutation
              { tenantId := tenantId
                idempotencyKey := c.val.idempotencyKey
                payload := feedbackPayload c
                identity :=
                  feedbackMutationIdentityFromCommand record.val.candidate c.val.feedback } with
          | (.error raised, next) => (.error raised, next)
          | (.ok (some prechecked), next) => (feedbackWorkflowResult c prechecked, next)
          | (.ok none, next) =>
              match recordFeedback record.val.candidate c.val.feedback c.val.acceptedAtUtc
                  policy with
              | .error raised => (.error raised, next)
              | .ok result =>
                  match next.recordFeedbackEvent
                      { idempotencyKey := c.val.idempotencyKey
                        payload := feedbackPayload c
                        eventLineage := c.val.eventLineage
                        result := result } with
                  | (.error raised, final) => (.error raised, final)
                  | (.ok persistence, final) => (feedbackWorkflowResult c persistence, final)

/-! ## Lifecycle -/

def lifecycleWorkflowResult (c : ApplyCandidateLifecycleTransitionCommand)
    (persistence : PersistenceResult) :
    Except PyError (WorkflowResult PersistedLifecycleTransition) := do
  let transition ← persistedLifecycleTransition c persistence
  return ⟨transition, persistence⟩

def lifecycleRequest (c : ApplyCandidateLifecycleTransitionCommand) : LifecycleRequest where
  candidateId := c.val.candidateId
  targetStatus := c.val.targetStatus
  idempotencyKey := c.val.idempotencyKey
  payload := lifecyclePayload c
  actorSubject := c.val.actorSubject
  occurredAtUtc := c.val.acceptedAtUtc
  observedAtUtc := some c.val.changedAtUtc
  transitionId := some c.val.transitionId
  reasonCodes := c.val.reasonCodes
  eventLineage := c.val.eventLineage

def applyCandidateLifecycleTransitionToRepository (s : IdeaRepository)
    (c : ApplyCandidateLifecycleTransitionCommand) :
    Except PyError (WorkflowResult PersistedLifecycleTransition) × IdeaRepository :=
  match s.candidateRecords.get? c.val.candidateId with
  | none => (.ok ⟨none, notFoundResult⟩, s)
  | some record =>
      match validate [accessScopeCheck (some c.val.accessScopeFilter) record
          .candidateLifecycleAccessScopeDenied] with
      | .error raised => (.error raised, s)
      | .ok _ =>
          match s.recordLifecycleTransition (lifecycleRequest c) with
          | (.error raised, final) => (.error raised, final)
          | (.ok persistence, final) => (lifecycleWorkflowResult c persistence, final)

/-! ## Conversion intents -/

def conversionIntentWorkflowResult (c : RequestConversionIntentToRepositoryCommand)
    (persistence : PersistenceResult) :
    Except PyError (WorkflowResult GovernedConversionIntent) := do
  let intent ← persistedConversionIntent c persistence
  return ⟨intent, persistence⟩

/-- The domain's decision on a conversion that was not answered before. -/
def conversionDecided (record : CandidatePersistenceRecord)
    (c : RequestConversionIntentToRepositoryCommand) : Except PyError ConversionIntentResult := do
  let grant ← reviewAuthorityForConversion record c
  requestConversionIntent record.val.candidate c.val.conversion c.val.acceptedAtUtc grant

def requestConversionIntentToRepository (s : IdeaRepository)
    (c : RequestConversionIntentToRepositoryCommand) :
    Except PyError (WorkflowResult GovernedConversionIntent) × IdeaRepository :=
  match s.candidateRecords.get? c.val.candidateId with
  | none => (.ok ⟨none, notFoundResult⟩, s)
  | some record =>
      match validate [accessScopeCheck c.val.accessScopeFilter record
          .conversionAccessScopeDenied] with
      | .error raised => (.error raised, s)
      | .ok _ =>
          match candidateTenantId record with
          | .error raised => (.error raised, s)
          | .ok tenantId =>
              match s.precheckConversionMutation tenantId c.val.idempotencyKey
                  (conversionIntentPayload c) with
              | .error raised => (.error raised, s)
              | .ok (some prechecked) => (conversionIntentWorkflowResult c prechecked, s)
              | .ok none =>
                  match conversionDecided record c with
                  | .error raised => (.error raised, s)
                  | .ok result =>
                      match s.recordConversionIntent
                          { idempotencyKey := c.val.idempotencyKey
                            payload := conversionIntentPayload c
                            eventLineage := c.val.eventLineage
                            result := result } with
                      | (.error raised, final) => (.error raised, final)
                      | (.ok persistence, final) =>
                          (conversionIntentWorkflowResult c persistence, final)

/-! ## Conversion outcomes -/

def conversionOutcomeWorkflowResult (c : RecordConversionOutcomeToRepositoryCommand)
    (identity : ConversionOutcomeIdentity) (persistence : PersistenceResult) :
    Except PyError (WorkflowResult GovernedConversionOutcome) := do
  let outcome ← persistedConversionOutcome c persistence identity
  return ⟨outcome, persistence⟩

/-- The rest of `record_conversion_outcome_to_repository` once the intent and its
record are found. -/
def recordOutcomeOf (s : IdeaRepository) (c : RecordConversionOutcomeToRepositoryCommand)
    (conversionIntent : GovernedConversionIntent) (record : CandidatePersistenceRecord) :
    Except PyError (WorkflowResult GovernedConversionOutcome) × IdeaRepository :=
  let identity := conversionOutcomeIdentityFromCommand conversionIntent c.val.outcome
  match candidateTenantId record with
  | .error raised => (.error raised, s)
  | .ok tenantId =>
      match s.precheckConversionOutcomeMutation
          { tenantId := tenantId
            idempotencyKey := c.val.idempotencyKey
            payload := conversionOutcomePayload c
            identity := identity } with
      | (.error raised, next) => (.error raised, next)
      | (.ok (some prechecked), next) =>
          (conversionOutcomeWorkflowResult c identity prechecked, next)
      | (.ok none, next) =>
          match LotusIdea.recordConversionOutcome conversionIntent c.val.outcome
              c.val.acceptedAtUtc
              (next.conversionOutcomesForIntent c.val.conversionIntentId) with
          | .error raised => (.error raised, next)
          | .ok result =>
              match next.recordConversionOutcome
                  { idempotencyKey := c.val.idempotencyKey
                    payload := conversionOutcomePayload c
                    eventLineage := c.val.eventLineage
                    result := result } with
              | (.error raised, final) => (.error raised, final)
              | (.ok persistence, final) =>
                  (conversionOutcomeWorkflowResult c identity persistence, final)

def recordConversionOutcomeToRepository (s : IdeaRepository)
    (c : RecordConversionOutcomeToRepositoryCommand) :
    Except PyError (WorkflowResult GovernedConversionOutcome) × IdeaRepository :=
  match s.conversionIntentById c.val.conversionIntentId with
  | none => (.ok ⟨none, notFoundResult⟩, s)
  | some conversionIntent =>
      match s.candidateRecordForConversionIntent c.val.conversionIntentId with
      | none => (.ok ⟨none, notFoundResult⟩, s)
      | some record =>
          match validate [accessScopeCheck c.val.accessScopeFilter record
              .conversionAccessScopeDenied] with
          | .error raised => (.error raised, s)
          | .ok _ => s.recordOutcomeOf c conversionIntent record

/-! ## Report evidence packs -/

def reportEvidencePackWorkflowResult (c : RequestReportEvidencePackToRepositoryCommand)
    (persistence : PersistenceResult) :
    Except PyError (WorkflowResult GovernedReportEvidencePack) := do
  let pack ← persistedReportEvidencePack c persistence
  return ⟨pack, persistence⟩

/-- The rest of `request_report_evidence_pack_to_repository` once the intent and
its record are found. -/
def requestPackOf (s : IdeaRepository) (c : RequestReportEvidencePackToRepositoryCommand)
    (conversionIntent : GovernedConversionIntent) (record : CandidatePersistenceRecord) :
    Except PyError (WorkflowResult GovernedReportEvidencePack) × IdeaRepository :=
  match candidateTenantId record with
  | .error raised => (.error raised, s)
  | .ok tenantId =>
      match s.precheckEvidencePackMutation tenantId c.val.idempotencyKey
          (reportEvidencePackPayload c) with
      | .error raised => (.error raised, s)
      | .ok (some prechecked) => (reportEvidencePackWorkflowResult c prechecked, s)
      | .ok none =>
          match requestReportEvidencePack record.val.candidate conversionIntent
              c.val.evidencePack with
          | .error raised => (.error raised, s)
          | .ok result =>
              match s.recordReportEvidencePack
                  { idempotencyKey := c.val.idempotencyKey
                    payload := reportEvidencePackPayload c
                    eventLineage := c.val.eventLineage
                    result := result } with
              | (.error raised, final) => (.error raised, final)
              | (.ok persistence, final) =>
                  (reportEvidencePackWorkflowResult c persistence, final)

def requestReportEvidencePackToRepository (s : IdeaRepository)
    (c : RequestReportEvidencePackToRepositoryCommand) :
    Except PyError (WorkflowResult GovernedReportEvidencePack) × IdeaRepository :=
  match s.conversionIntentById c.val.conversionIntentId,
      s.candidateRecordForConversionIntent c.val.conversionIntentId with
  | some conversionIntent, some record =>
      match validate [accessScopeCheck (some c.val.accessScopeFilter) record
          .reportEvidenceAccessScopeDenied] with
      | .error raised => (.error raised, s)
      | .ok _ => s.requestPackOf c conversionIntent record
  | _, _ => (.ok ⟨none, notFoundResult⟩, s)

end IdeaRepository

end Workflows

end LotusIdea

import LotusIdea.Domain.SubmissionTransitions

/-!
# Realization histories

`advise_realization.py` and `manage_realization.py`: what Advise and Manage say that
came of an accepted conversion intent, as a history of versioned records, and the
decision whether a history may replace the stored one.
-/

set_option autoImplicit false

namespace LotusIdea

/-! ## Advise -/

inductive AdviseProposalRealizationStatus where
  | acceptedForReview
  | rejectedBeforeWork
  | proposalLinked
  | advisoryRejected
  | advisoryCancelled
  | advisoryExpired
  | advisoryCompleted
  deriving DecidableEq, Repr

inductive AdviseProposalReviewWorkStatus where
  | pendingAdviserReview
  | proposalLinked
  | closed
  deriving DecidableEq, Repr

/-- `TERMINAL_ADVISE_REALIZATION_STATUSES`. -/
def terminalAdviseRealizationStatuses : List AdviseProposalRealizationStatus :=
  [.rejectedBeforeWork, .advisoryRejected, .advisoryCancelled, .advisoryExpired,
   .advisoryCompleted]

/-- `_ALLOWED_ADVISE_REALIZATION_TRANSITIONS`. -/
def allowedAdviseRealizationTransitions :
    AdviseProposalRealizationStatus → List AdviseProposalRealizationStatus
  | .acceptedForReview => [.proposalLinked]
  | .proposalLinked =>
      [.advisoryRejected, .advisoryCancelled, .advisoryExpired, .advisoryCompleted]
  | .rejectedBeforeWork | .advisoryRejected | .advisoryCancelled | .advisoryExpired
  | .advisoryCompleted => []

structure AdviseOutcomeFields where
  outcomeId : String
  sourceEventVersion : Int
  status : AdviseProposalRealizationStatus
  reasonCode : String
  occurredAtUtc : DateTime
  reviewWorkId : Option String
  proposalId : Option String
  terminal : Bool
  deriving DecidableEq

def AdviseOutcomeFields.checks (o : AdviseOutcomeFields) : List (Bool × PyError) :=
  [requireText o.outcomeId "outcome_id", requireText o.reasonCode "reason_code",
   (decide (o.sourceEventVersion ≤ 0), .valueError "source_event_version must be positive")] ++
  requireAwareUtc o.occurredAtUtc "occurred_at_utc" ++
  [requireOptionalText o.reviewWorkId "review_work_id",
   requireOptionalText o.proposalId "proposal_id",
   (o.terminal != terminalAdviseRealizationStatuses.contains o.status,
     .valueError "terminal must match Advise realization status")]

/-- The times of an outcome are UTC, so `==` on outcomes is equality. -/
abbrev AdviseProposalRealizationOutcome := Checked AdviseOutcomeFields.checks

structure AdviseHistoryFields where
  realizationId : String
  intakeId : String
  reviewWorkId : Option String
  reviewWorkStatus : Option AdviseProposalReviewWorkStatus
  sourceAuthority : String
  realizationAuthority : String
  tenantId : String
  legalEntityCode : String
  portfolioId : String
  ideaCandidateId : String
  conversionIntentId : String
  sourceEvidenceFingerprint : String
  currentStatus : AdviseProposalRealizationStatus
  currentSourceEventVersion : Int
  proposalId : Option String
  proposalRecordCreated : Bool
  suitabilityAuthorityGranted : Bool
  orderCreated : Bool
  clientPublicationAuthorized : Bool
  createdAtUtc : DateTime
  updatedAtUtc : DateTime
  outcomes : List AdviseProposalRealizationOutcome
  deriving DecidableEq

/-- The versions `1, 2, …` of as many records. -/
def contiguousVersions (count : Nat) : List Int :=
  (List.range count).map fun index : Nat => (index : Int) + 1

/-- Each record of a history beside the one that follows it. -/
def consecutive {α : Type} (records : List α) : List (α × α) := records.zip records.tail

namespace AdviseHistoryFields

/-- The loop over the outcomes in `_validate_history`. -/
def transitionChecks (h : AdviseHistoryFields) : List (Bool × PyError) :=
  (consecutive h.outcomes).flatMap fun (previous, current) =>
    [(!(allowedAdviseRealizationTransitions previous.val.status).contains current.val.status,
       .valueError "Advise realization history has an invalid status transition"),
     (decide (current.val.occurredAtUtc < previous.val.occurredAtUtc),
       .valueError "Advise realization outcomes must be chronological")]

def proposalIds (h : AdviseHistoryFields) : List String :=
  (h.outcomes.filterMap fun outcome => outcome.val.proposalId).filter (· != "")

/-- `_validate_work_and_proposal`, given the first and the last outcome. -/
def workAndProposalChecks (h : AdviseHistoryFields)
    (first last : AdviseProposalRealizationOutcome) : List (Bool × PyError) :=
  (if first.val.status = .rejectedBeforeWork then
    [(h.outcomes.length != 1,
       .valueError "rejected-before-work realization cannot progress"),
     (h.reviewWorkId.isSome || h.reviewWorkStatus.isSome,
       .valueError "rejected-before-work realization forbids review work")]
  else
    [(h.reviewWorkId.isNone || h.reviewWorkStatus.isNone,
       .valueError "accepted Advise realization requires review work"),
     (h.outcomes.any fun outcome => outcome.val.reviewWorkId != h.reviewWorkId,
       .valueError "Advise realization review work identity changed")]) ++
  [(decide (1 < h.proposalIds.dedup.length),
     .valueError "Advise realization proposal identity changed"),
   (h.proposalId != h.proposalIds.head? || last.val.proposalId != h.proposalIds.head?,
     .valueError "proposal_id must match the final owner outcome"),
   (h.proposalRecordCreated != h.proposalIds.head?.isSome,
     .valueError "proposal_record_created must match proposal_id")]

/-- `_validate_history`. -/
def historyChecks (h : AdviseHistoryFields) : List (Bool × PyError) :=
  match h.outcomes.head?, h.outcomes.getLast? with
  | some first, some last =>
      [(!decide (h.outcomes.map fun outcome => outcome.val.outcomeId).Nodup,
         .valueError "Advise realization outcome identities must be unique"),
       ((h.outcomes.map fun outcome => outcome.val.sourceEventVersion) !=
           contiguousVersions h.outcomes.length,
         .valueError "Advise realization event versions must be contiguous from one"),
       (first.val.status != .acceptedForReview && first.val.status != .rejectedBeforeWork,
         .valueError "Advise realization history has an invalid initial status")] ++
      h.transitionChecks ++
      [(h.currentSourceEventVersion != last.val.sourceEventVersion,
         .valueError "current_source_event_version must match the final outcome"),
       (h.currentStatus != last.val.status,
         .valueError "current_status must match the final outcome"),
       (!(h.updatedAtUtc == last.val.occurredAtUtc),
         .valueError "updated_at_utc must match the final outcome"),
       (!(h.createdAtUtc == first.val.occurredAtUtc),
         .valueError "created_at_utc must match the initial outcome"),
       (h.reviewWorkId != last.val.reviewWorkId,
         .valueError "review_work_id must match the final outcome")] ++
      h.workAndProposalChecks first last
  | _, _ => [(true, .valueError "Advise realization outcomes are required")]

def checks (h : AdviseHistoryFields) : List (Bool × PyError) :=
  [requireText h.realizationId "realization_id", requireText h.intakeId "intake_id",
   requireText h.tenantId "tenant_id", requireText h.legalEntityCode "legal_entity_code",
   requireText h.portfolioId "portfolio_id",
   requireText h.ideaCandidateId "idea_candidate_id",
   requireText h.conversionIntentId "conversion_intent_id",
   requireText h.sourceEvidenceFingerprint "source_evidence_fingerprint",
   (h.sourceAuthority != "lotus-idea", .valueError "source_authority must be lotus-idea"),
   (h.realizationAuthority != "lotus-advise",
     .valueError "realization_authority must be lotus-advise"),
   (!PyText.startsWith h.sourceEvidenceFingerprint "sha256:",
     .valueError "source_evidence_fingerprint must use sha256"),
   requireOptionalText h.reviewWorkId "review_work_id",
   requireOptionalText h.proposalId "proposal_id",
   (decide (h.currentSourceEventVersion ≤ 0),
     .valueError "current_source_event_version must be positive")] ++
  requireAwareUtc h.createdAtUtc "created_at_utc" ++
  requireAwareUtc h.updatedAtUtc "updated_at_utc" ++
  [(decide (h.updatedAtUtc < h.createdAtUtc),
     .valueError "updated_at_utc must not precede created_at_utc"),
   (h.suitabilityAuthorityGranted || h.orderCreated || h.clientPublicationAuthorized,
     .valueError "Advise realization response asserted unsupported authority")] ++
  h.historyChecks

end AdviseHistoryFields

abbrev AdviseProposalRealizationHistory := Checked AdviseHistoryFields.checks

/-! ## Manage -/

inductive ManageActionRealizationStatus where
  | notRequired
  | pendingReview
  | approved
  | rejected
  deriving DecidableEq, Repr

inductive ManageActionRealizationEventType where
  | intakeAccepted
  | approve
  | reject
  | requestChanges
  deriving DecidableEq, Repr

/-- `VALID_MANAGE_REVIEW_TRANSITIONS.get`. -/
def validManageReviewTransitions :
    Option ManageActionRealizationStatus → ManageActionRealizationEventType →
      Option ManageActionRealizationStatus
  | some .pendingReview, .approve => some .approved
  | some .pendingReview, .reject => some .rejected
  | some .pendingReview, .requestChanges => some .pendingReview
  | some .approved, .requestChanges => some .pendingReview
  | some .approved, .reject => some .rejected
  | some .rejected, .requestChanges => some .pendingReview
  | _, _ => none

structure ManageEventFields where
  eventId : String
  actionId : String
  sourceEventVersion : Int
  eventType : ManageActionRealizationEventType
  previousStatus : Option ManageActionRealizationStatus
  status : ManageActionRealizationStatus
  occurredAtUtc : DateTime
  actorId : String
  actorRole : String
  reasonCode : String
  correlationId : String
  causationId : String
  deriving DecidableEq

def ManageEventFields.checks (e : ManageEventFields) : List (Bool × PyError) :=
  [requireText e.eventId "event_id", requireText e.actionId "action_id",
   requireText e.actorId "actor_id", requireText e.actorRole "actor_role",
   requireText e.reasonCode "reason_code", requireText e.correlationId "correlation_id",
   requireText e.causationId "causation_id",
   (decide (e.sourceEventVersion ≤ 0), .valueError "source_event_version must be positive")] ++
  requireAwareUtc e.occurredAtUtc "occurred_at_utc"

/-- The time of an event is UTC, so `==` on events is equality. -/
abbrev ManageActionRealizationEvent := Checked ManageEventFields.checks

def manageActionOutcomeHistoryContractVersion : String :=
  "lotus-manage.idea-action-outcome-history.v1"

structure ManageHistoryFields where
  contractVersion : String
  intakeId : String
  managementActionId : String
  sourceAuthority : String
  portfolioId : String
  ideaCandidateId : String
  conversionIntentId : String
  requestFingerprint : String
  status : ManageActionRealizationStatus
  sourceEventVersion : Int
  rebalanceExecutionProven : Bool
  orderExecutionProven : Bool
  clientPublicationProven : Bool
  events : List ManageActionRealizationEvent
  deriving DecidableEq

namespace ManageHistoryFields

/-- `removeprefix("sha256:")`. -/
def fingerprintValue (h : ManageHistoryFields) : List Char :=
  if PyText.startsWith h.requestFingerprint "sha256:" then h.requestFingerprint.toList.drop 7
  else h.requestFingerprint.toList

/-- The loop over the events in `_validate_history`. -/
def transitionChecks (h : ManageHistoryFields) : List (Bool × PyError) :=
  (consecutive h.events).flatMap fun (previous, current) =>
    [(current.val.eventType == .intakeAccepted,
       .valueError "Manage realization intake event must be first"),
     (current.val.previousStatus != some previous.val.status,
       .valueError "Manage realization event chain is not contiguous"),
     (validManageReviewTransitions current.val.previousStatus current.val.eventType !=
         some current.val.status,
       .valueError "Manage realization history has an invalid status transition"),
     (decide (current.val.occurredAtUtc < previous.val.occurredAtUtc),
       .valueError "Manage realization events must be chronological")]

/-- `_validate_history`. -/
def historyChecks (h : ManageHistoryFields) : List (Bool × PyError) :=
  match h.events.head?, h.events.getLast? with
  | some first, some last =>
      [(!decide (h.events.map fun event => event.val.eventId).Nodup,
         .valueError "Manage realization event identities must be unique"),
       ((h.events.map fun event => event.val.sourceEventVersion) !=
           contiguousVersions h.events.length,
         .valueError "Manage realization event versions must be contiguous from one"),
       (first.val.eventType != .intakeAccepted || first.val.previousStatus.isSome ||
           first.val.status != .pendingReview,
         .valueError "Manage realization history has an invalid intake event")] ++
      h.transitionChecks ++
      [(h.events.any fun event => event.val.actionId != h.managementActionId,
         .valueError "Manage realization action identity changed"),
       (h.events.any fun event => event.val.causationId != h.conversionIntentId,
         .valueError "Manage realization conversion causation identity changed"),
       (h.sourceEventVersion != last.val.sourceEventVersion,
         .valueError "source_event_version must match the final event"),
       (h.status != last.val.status, .valueError "status must match the final event")]
  | _, _ => [(true, .valueError "Manage realization events are required")]

def checks (h : ManageHistoryFields) : List (Bool × PyError) :=
  [requireText h.intakeId "intake_id", requireText h.managementActionId "management_action_id",
   requireText h.portfolioId "portfolio_id",
   requireText h.ideaCandidateId "idea_candidate_id",
   requireText h.conversionIntentId "conversion_intent_id",
   requireText h.requestFingerprint "request_fingerprint",
   (h.contractVersion != manageActionOutcomeHistoryContractVersion,
     .valueError "contract_version is not the certified owner contract"),
   (h.sourceAuthority != "lotus-manage", .valueError "source_authority must be lotus-manage"),
   (decide (h.sourceEventVersion ≤ 0), .valueError "source_event_version must be positive"),
   (h.fingerprintValue.length != 12 || !h.fingerprintValue.all Sha256.isHexDigit,
     .valueError "request_fingerprint must be sha256 followed by 12 lowercase hex"),
   (h.rebalanceExecutionProven || h.orderExecutionProven || h.clientPublicationProven,
     .valueError "Manage realization response asserted unsupported authority")] ++
  h.historyChecks

end ManageHistoryFields

abbrev ManageActionRealizationHistory := Checked ManageHistoryFields.checks

/-! ## What the constructors established -/

/-- A check of every pair of neighbours is a chain. -/
theorem isChain_iff_consecutive {α : Type} {R : α → α → Prop} {records : List α} :
    records.IsChain R ↔ ∀ pair ∈ consecutive records, R pair.1 pair.2 := by
  induction records with
  | nil => simp [consecutive]
  | cons first rest ih =>
      cases rest with
      | nil => simp [consecutive]
      | cons next tail =>
          rw [List.isChain_cons_cons, ih]
          simp [consecutive]

/-- Checks that are made of every pair of neighbours pass when each pair passes its own. -/
theorem consecutive_checks_pass {α : Type} {records : List α}
    {checks : α × α → List (Bool × PyError)} :
    firstFailure ((consecutive records).flatMap checks) = none ↔
      records.IsChain fun previous current => firstFailure (checks (previous, current)) = none := by
  rw [isChain_iff_consecutive, firstFailure_eq_none]
  constructor
  · intro passed pair member
    rw [firstFailure_eq_none]
    intro check own
    exact passed check (List.mem_flatMap.mpr ⟨pair, member, own⟩)
  · intro each check member
    obtain ⟨pair, inside, own⟩ := List.mem_flatMap.mp member
    exact firstFailure_eq_none.mp (each pair inside) check own

/-- The version of the last of contiguous records counts them. -/
theorem contiguousVersions_last {α : Type} {records : List α} {version : α → Int} {last : α}
    (contiguous : records.map version = contiguousVersions records.length)
    (ends : records.getLast? = some last) : version last = records.length := by
  have filled : 0 < records.length := List.length_pos_iff.mpr fun none_ => by
    rw [none_] at ends
    cases ends
  have own : (records.map version)[records.length - 1]? =
      (contiguousVersions records.length)[records.length - 1]? := by rw [contiguous]
  rw [List.getLast?_eq_getElem?] at ends
  simp only [contiguousVersions, List.getElem?_map, ends, Option.map_some,
    List.getElem?_range (show records.length - 1 < records.length by omega),
    Option.some.injEq] at own
  omega

namespace AdviseProposalRealizationHistory

/-- One outcome may follow another. -/
def Follows (previous current : AdviseProposalRealizationOutcome) : Prop :=
  current.val.status ∈ allowedAdviseRealizationTransitions previous.val.status ∧
    previous.val.occurredAtUtc ≤ current.val.occurredAtUtc

/-- The version and chaining rules of the histories. -/
structure Rules (h : AdviseProposalRealizationHistory) : Prop where
  started : ∃ first, h.val.outcomes.head? = some first ∧
    (first.val.status = .acceptedForReview ∨ first.val.status = .rejectedBeforeWork)
  identified : (h.val.outcomes.map fun outcome => outcome.val.outcomeId).Nodup
  versions : (h.val.outcomes.map fun outcome => outcome.val.sourceEventVersion) =
    contiguousVersions h.val.outcomes.length
  chained : h.val.outcomes.IsChain Follows
  ended : ∃ last, h.val.outcomes.getLast? = some last ∧
    h.val.currentSourceEventVersion = last.val.sourceEventVersion ∧
    h.val.currentStatus = last.val.status ∧ h.val.reviewWorkId = last.val.reviewWorkId
  worked : ∀ first, h.val.outcomes.head? = some first →
    (first.val.status = .rejectedBeforeWork ∧ h.val.outcomes.length = 1) ∨
    ∀ outcome ∈ h.val.outcomes, outcome.val.reviewWorkId = h.val.reviewWorkId

theorem rules (h : AdviseProposalRealizationHistory) : h.Rules := by
  have passed := h.valid
  simp only [AdviseHistoryFields.checks, firstFailure_append, AdviseHistoryFields.historyChecks]
    at passed
  have history := passed.2
  split at history
  · rename_i first last starts ends
    simp only [firstFailure_append, firstFailure_cons, firstFailure_nil, and_true] at history
    obtain ⟨⟨⟨⟨unique, contiguous, initial⟩, steps⟩, version, status, _, _, work⟩, worked⟩ := history
    have chained : h.val.outcomes.IsChain Follows := by
      refine (consecutive_checks_pass.mp steps).imp fun previous current pass => ?_
      simp only [firstFailure_cons, firstFailure_nil, and_true, Bool.not_eq_false',
        List.contains_iff_mem, decide_eq_false_iff_not] at pass
      exact ⟨pass.1, Int.not_lt.mp pass.2⟩
    refine
      { started := ⟨first, starts, ?_⟩
        identified := by simpa using unique
        versions := by simpa using contiguous
        chained := chained
        ended := ⟨last, ends, by simpa using version, by simpa using status, by simpa using work⟩
        worked := ?_ }
    · by_cases accepted : first.val.status = .acceptedForReview
      · exact Or.inl accepted
      · exact Or.inr (by simpa [accepted] using initial)
    · intro other starts'
      rw [starts] at starts'
      cases starts'
      simp only [AdviseHistoryFields.workAndProposalChecks, firstFailure_append] at worked
      by_cases rejected : first.val.status = .rejectedBeforeWork
      · simp only [if_pos rejected, firstFailure_cons] at worked
        exact Or.inl ⟨rejected, by simpa using worked.1.1⟩
      · simp only [if_neg rejected, firstFailure_cons] at worked
        right
        simpa using worked.1.2.1
  · simp at history

/-- The first outcome of a history names its review work. -/
theorem Rules.first_work {h : AdviseProposalRealizationHistory} (rules : h.Rules)
    {first : AdviseProposalRealizationOutcome} (starts : h.val.outcomes.head? = some first) :
    first.val.reviewWorkId = h.val.reviewWorkId := by
  rcases rules.worked first starts with ⟨_, single⟩ | named
  · -- A rejected history ends with its first outcome.
    obtain ⟨only, whole⟩ := List.length_eq_one_iff.mp single
    obtain ⟨last, ends, _, _, own⟩ := rules.ended
    rw [whole] at starts ends
    cases starts
    cases ends
    exact own.symm
  · exact named first (List.mem_of_mem_head? (Option.mem_def.mpr starts))

end AdviseProposalRealizationHistory

namespace ManageActionRealizationHistory

/-- One event may follow another. -/
def Follows (previous current : ManageActionRealizationEvent) : Prop :=
  current.val.eventType ≠ .intakeAccepted ∧
    current.val.previousStatus = some previous.val.status ∧
    validManageReviewTransitions current.val.previousStatus current.val.eventType =
      some current.val.status ∧
    previous.val.occurredAtUtc ≤ current.val.occurredAtUtc

/-- The version and chaining rules of the histories. -/
structure Rules (h : ManageActionRealizationHistory) : Prop where
  started : ∃ first, h.val.events.head? = some first ∧
    first.val.eventType = .intakeAccepted ∧ first.val.previousStatus = none ∧
    first.val.status = .pendingReview
  identified : (h.val.events.map fun event => event.val.eventId).Nodup
  versions : (h.val.events.map fun event => event.val.sourceEventVersion) =
    contiguousVersions h.val.events.length
  chained : h.val.events.IsChain Follows
  named : ∀ event ∈ h.val.events, event.val.actionId = h.val.managementActionId ∧
    event.val.causationId = h.val.conversionIntentId
  ended : ∃ last, h.val.events.getLast? = some last ∧
    h.val.sourceEventVersion = last.val.sourceEventVersion ∧ h.val.status = last.val.status

theorem rules (h : ManageActionRealizationHistory) : h.Rules := by
  have passed := h.valid
  simp only [ManageHistoryFields.checks, firstFailure_append, ManageHistoryFields.historyChecks]
    at passed
  have history := passed.2
  split at history
  · rename_i first last starts ends
    simp only [firstFailure_append, firstFailure_cons, firstFailure_nil, and_true] at history
    obtain ⟨⟨⟨unique, contiguous, initial⟩, steps⟩, actions, causes, version, status⟩ := history
    have chained : h.val.events.IsChain Follows := by
      refine (consecutive_checks_pass.mp steps).imp fun previous current pass => ?_
      simp only [firstFailure_cons, firstFailure_nil, and_true, bne_eq_false_iff_eq,
        beq_eq_false_iff_ne, decide_eq_false_iff_not] at pass
      exact ⟨pass.1, pass.2.1, pass.2.2.1, Int.not_lt.mp pass.2.2.2⟩
    simp only [Bool.or_eq_false_iff, bne_eq_false_iff_eq, Option.isSome_eq_false_iff,
      Option.isNone_iff_eq_none] at initial
    have action : ∀ event ∈ h.val.events, event.val.actionId = h.val.managementActionId := by
      simpa using actions
    have cause : ∀ event ∈ h.val.events, event.val.causationId = h.val.conversionIntentId := by
      simpa using causes
    exact
      { started := ⟨first, starts, initial.1.1, initial.1.2, initial.2⟩
        identified := by simpa using unique
        versions := by simpa using contiguous
        chained := chained
        named := fun event member => ⟨action event member, cause event member⟩
        ended := ⟨last, ends, by simpa using version, by simpa using status⟩ }
  · simp at history

end ManageActionRealizationHistory

/-! ## Both owners -/

inductive RealizationHistoryMutationDecision where
  | accepted
  | replayed
  | conflict
  | notFound
  deriving DecidableEq, Repr

/-- What the two modules know of their owner's histories. -/
structure RealizationOwner (η ε : Type) where
  name : String
  recordName : String
  target : ConversionTarget
  authority : SourceSystem
  historyIdentity : η → List String
  ownerRequestId : η → String
  ownerRealizationId : η → String
  ownerWorkId : η → Option String
  sourceEvidenceFingerprint : η → String
  conversionIntentId : η → String
  currentVersion : η → Int
  records : η → List ε

def adviseRealizationOwner :
    RealizationOwner AdviseProposalRealizationHistory AdviseProposalRealizationOutcome where
  name := "advise"
  recordName := "outcome"
  target := .adviseProposal
  authority := .lotusAdvise
  historyIdentity h :=
    [h.val.realizationId, h.val.intakeId, h.val.sourceAuthority, h.val.realizationAuthority,
     h.val.tenantId, h.val.legalEntityCode, h.val.portfolioId, h.val.ideaCandidateId,
     h.val.conversionIntentId, h.val.sourceEvidenceFingerprint]
  ownerRequestId h := h.val.intakeId
  ownerRealizationId h := h.val.realizationId
  ownerWorkId h := h.val.reviewWorkId
  sourceEvidenceFingerprint h := h.val.sourceEvidenceFingerprint
  conversionIntentId h := h.val.conversionIntentId
  currentVersion h := h.val.currentSourceEventVersion
  records h := h.val.outcomes

def manageRealizationOwner :
    RealizationOwner ManageActionRealizationHistory ManageActionRealizationEvent where
  name := "manage"
  recordName := "event"
  target := .manageReview
  authority := .lotusManage
  historyIdentity h :=
    [h.val.contractVersion, h.val.intakeId, h.val.managementActionId, h.val.sourceAuthority,
     h.val.portfolioId, h.val.ideaCandidateId, h.val.conversionIntentId,
     h.val.requestFingerprint]
  ownerRequestId h := h.val.intakeId
  ownerRealizationId h := h.val.managementActionId
  ownerWorkId h := some h.val.managementActionId
  sourceEvidenceFingerprint h := h.val.requestFingerprint
  conversionIntentId h := h.val.conversionIntentId
  currentVersion h := h.val.sourceEventVersion
  records h := h.val.events

structure RealizationMutationFields (η : Type) where
  decision : RealizationHistoryMutationDecision
  history : Option η
  blocker : Option String := none
  appendedCount : Int := 0

/-- The count is named after the records of the owner. -/
def RealizationMutationFields.checks {η : Type} (recordName : String)
    (r : RealizationMutationFields η) : List (Bool × PyError) :=
  [(decide (r.appendedCount < 0),
     .valueError ("appended_" ++ recordName ++ "_count must not be negative")),
   (r.decision != .accepted && r.appendedCount != 0,
     .valueError ("only an accepted history mutation may append " ++ recordName ++ "s"))]

theorem RealizationMutationFields.refused_valid {η : Type} (recordName : String)
    (history : Option η) (blocker : Option String) :
    firstFailure (RealizationMutationFields.checks recordName
      { decision := .conflict, history := history, blocker := blocker }) = none := by
  simp [RealizationMutationFields.checks]

namespace RealizationOwner

variable {η ε : Type} [DecidableEq η] [DecidableEq ε] (owner : RealizationOwner η ε)

/-- `evaluate_…_realization_history_mutation`. -/
def evaluate (existing : Option η) (proposed : η) : RealizationHistoryMutationDecision :=
  match existing with
  | none => .accepted
  | some existing =>
      if existing = proposed then .replayed
      else if owner.historyIdentity existing ≠ owner.historyIdentity proposed then .conflict
      else if owner.currentVersion proposed ≤ owner.currentVersion existing then .conflict
      else if (owner.records proposed).take (owner.records existing).length ≠
          owner.records existing then .conflict
      else .accepted

/-- The answer for a history that its submission does not block. -/
def answer (existing : Option η) (history : η) : RealizationMutationFields η :=
  let decision := owner.evaluate existing history
  { decision := decision
    history := if decision = .conflict then existing else some history
    blocker :=
      if decision = .conflict then some (owner.name ++ "_realization_history_conflict") else none
    appendedCount :=
      if decision = .accepted then
        (owner.records history).length - (existing.elim 0 fun old => (owner.records old).length : Nat)
      else 0 }

end RealizationOwner

def evaluateAdviseRealizationHistoryMutation :
    Option AdviseProposalRealizationHistory → AdviseProposalRealizationHistory →
      RealizationHistoryMutationDecision :=
  adviseRealizationOwner.evaluate

def evaluateManageRealizationHistoryMutation :
    Option ManageActionRealizationHistory → ManageActionRealizationHistory →
      RealizationHistoryMutationDecision :=
  manageRealizationOwner.evaluate

/-! ## What an owner's histories obey -/

namespace RealizationOwner

variable {η ε : Type} {owner : RealizationOwner η ε}

/-- The later history is of the same identity and begins with the records of the other. -/
structure Extends (owner : RealizationOwner η ε) (old new : η) : Prop where
  identity : owner.historyIdentity old = owner.historyIdentity new
  grown : owner.records old <+: owner.records new

theorem extends_refl (h : η) : owner.Extends h h := ⟨rfl, List.prefix_refl _⟩

theorem extends_trans {a b c : η} (first : owner.Extends a b) (second : owner.Extends b c) :
    owner.Extends a c :=
  ⟨first.identity.trans second.identity, first.grown.trans second.grown⟩

/-- The version of a history counts its records, and what the blocker compares with
the owner's receipt is kept under the identity and by an extension. -/
structure Lawful (owner : RealizationOwner η ε) : Prop where
  counts : ∀ h, owner.currentVersion h = (owner.records h).length
  requestId : ∀ a b, owner.historyIdentity a = owner.historyIdentity b →
    owner.ownerRequestId a = owner.ownerRequestId b
  realizationId : ∀ a b, owner.historyIdentity a = owner.historyIdentity b →
    owner.ownerRealizationId a = owner.ownerRealizationId b
  fingerprint : ∀ a b, owner.historyIdentity a = owner.historyIdentity b →
    owner.sourceEvidenceFingerprint a = owner.sourceEvidenceFingerprint b
  intent : ∀ a b, owner.historyIdentity a = owner.historyIdentity b →
    owner.conversionIntentId a = owner.conversionIntentId b
  work : ∀ a b, owner.Extends a b → owner.ownerWorkId a = owner.ownerWorkId b

section
variable [DecidableEq η] [DecidableEq ε]

/-- The later history has more records. -/
def ProperlyExtends (owner : RealizationOwner η ε) (old new : η) : Prop :=
  owner.Extends old new ∧ (owner.records old).length < (owner.records new).length

theorem evaluate_replayed {old new : η} :
    owner.evaluate (some old) new = .replayed ↔ old = new := by
  simp only [evaluate]
  split_ifs with same identity stale forked
  · exact iff_of_true rfl same
  all_goals exact iff_of_false (by simp) same

theorem evaluate_accepted (lawful : owner.Lawful) {old new : η} :
    owner.evaluate (some old) new = .accepted ↔ owner.ProperlyExtends old new := by
  have versions := lawful.counts old
  have laterVersions := lawful.counts new
  simp only [evaluate]
  split_ifs with same identity stale forked
  · subst same
    refine iff_of_false (by simp) ?_
    rintro ⟨_, longer⟩
    exact Nat.lt_irrefl _ longer
  · exact iff_of_false (by simp) fun extended => identity extended.1.identity
  · refine iff_of_false (by simp) ?_
    rintro ⟨_, longer⟩
    omega
  · refine iff_of_false (by simp) fun extended => forked ?_
    exact (List.prefix_iff_eq_take.mp extended.1.grown).symm
  · refine iff_of_true rfl ⟨⟨not_not.mp identity, ?_⟩, by omega⟩
    exact List.prefix_iff_eq_take.mpr (not_not.mp forked).symm

theorem evaluate_none (new : η) : owner.evaluate none new = .accepted := rfl

theorem evaluate_found (existing : Option η) (new : η) :
    owner.evaluate existing new ≠ .notFound := by
  unfold evaluate
  cases existing with
  | none => simp
  | some old =>
      simp only
      split_ifs <;> simp

/-- The answer never breaks the rule on the count of appended records. -/
theorem answer_valid (lawful : owner.Lawful) (existing : Option η) (history : η) :
    firstFailure (RealizationMutationFields.checks owner.recordName
      (owner.answer existing history)) = none := by
  simp only [RealizationMutationFields.checks, firstFailure_cons, firstFailure_nil, and_true,
    answer]
  by_cases accepted : owner.evaluate existing history = .accepted
  · simp only [accepted, if_true]
    refine ⟨decide_eq_false ?_, by simp⟩
    cases existing with
    | none => simp
    | some old =>
        have longer := ((evaluate_accepted lawful).mp accepted).2
        simp only [Option.elim_some]
        omega
  · simp [accepted]

end

end RealizationOwner

theorem adviseRealizationOwner_lawful : adviseRealizationOwner.Lawful := by
  have identified {a b : AdviseProposalRealizationHistory}
      (same : adviseRealizationOwner.historyIdentity a = adviseRealizationOwner.historyIdentity b) :
      a.val.intakeId = b.val.intakeId ∧ a.val.realizationId = b.val.realizationId ∧
        a.val.sourceEvidenceFingerprint = b.val.sourceEvidenceFingerprint ∧
        a.val.conversionIntentId = b.val.conversionIntentId := by
    simp only [adviseRealizationOwner, List.cons.injEq] at same
    obtain ⟨realization, intake, _, _, _, _, _, _, intent, fingerprint, _⟩ := same
    exact ⟨intake, realization, fingerprint, intent⟩
  refine
    { counts := ?_
      requestId := fun a b same => (identified same).1
      realizationId := fun a b same => (identified same).2.1
      fingerprint := fun a b same => (identified same).2.2.1
      intent := fun a b same => (identified same).2.2.2
      work := ?_ }
  · intro h
    obtain ⟨last, ends, version, _⟩ := h.rules.ended
    exact version.trans (contiguousVersions_last h.rules.versions ends)
  · intro a b extended
    obtain ⟨first, starts, _⟩ := a.rules.started
    obtain ⟨more, grown⟩ := extended.grown
    have starts' : b.val.outcomes.head? = some first := by
      have whole : a.val.outcomes ++ more = b.val.outcomes := grown
      rw [← whole, List.head?_append, starts]
      rfl
    exact (a.rules.first_work starts).symm.trans (b.rules.first_work starts')

theorem manageRealizationOwner_lawful : manageRealizationOwner.Lawful := by
  have identified {a b : ManageActionRealizationHistory}
      (same : manageRealizationOwner.historyIdentity a = manageRealizationOwner.historyIdentity b) :
      a.val.intakeId = b.val.intakeId ∧ a.val.managementActionId = b.val.managementActionId ∧
        a.val.requestFingerprint = b.val.requestFingerprint ∧
        a.val.conversionIntentId = b.val.conversionIntentId := by
    simp only [manageRealizationOwner, List.cons.injEq] at same
    obtain ⟨_, intake, action, _, _, _, intent, fingerprint, _⟩ := same
    exact ⟨intake, action, fingerprint, intent⟩
  refine
    { counts := ?_
      requestId := fun a b same => (identified same).1
      realizationId := fun a b same => (identified same).2.1
      fingerprint := fun a b same => (identified same).2.2.1
      intent := fun a b same => (identified same).2.2.2
      work := fun a b extended => congrArg some (identified extended.identity).2.1 }
  intro h
  obtain ⟨last, ends, version, _⟩ := h.rules.ended
  exact version.trans (contiguousVersions_last h.rules.versions ends)

/-! ## Persistence -/

section
variable [Sha256]

namespace RealizationOwner

variable {η ε : Type} [DecidableEq η] [DecidableEq ε] (owner : RealizationOwner η ε)

/-- `…_realization_submission_blocker`. -/
def submissionBlocker (submission : DownstreamSubmissionRecord) (history : η) : Option String :=
  if submission.val.resourceType ≠ .conversionIntent then
    some (owner.name ++ "_realization_requires_conversion_intent_submission")
  else if submission.val.target ≠ owner.target then
    some (owner.name ++ "_realization_requires_" ++ owner.name ++ "_target")
  else if submission.val.sourceAuthority ≠ owner.authority then
    some (owner.name ++ "_realization_requires_" ++ owner.name ++ "_authority")
  else if submission.val.status ≠ .acceptedByDownstream ∧
      submission.val.status ≠ .rejectedByDownstream then
    some (owner.name ++ "_realization_requires_terminal_owner_submission")
  else
    match submission.val.ownerReceipt with
    | none => some (owner.name ++ "_realization_owner_receipt_missing")
    | some receipt =>
        match receipt.val.sourceEventVersion with
        | none => some (owner.name ++ "_realization_owner_receipt_conflict")
        | some version =>
            if receipt.val.ownerAuthority ≠ owner.authority ∨
                receipt.val.ownerRequestId ≠ owner.ownerRequestId history ∨
                receipt.val.ownerRealizationId ≠ owner.ownerRealizationId history ∨
                receipt.val.ownerWorkId ≠ owner.ownerWorkId history ∨
                receipt.val.sourceEvidenceFingerprint ≠ owner.sourceEvidenceFingerprint history ∨
                submission.val.resourceId ≠ owner.conversionIntentId history then
              some (owner.name ++ "_realization_owner_receipt_conflict")
            else if owner.currentVersion history < version then
              some (owner.name ++ "_realization_history_regressed_below_receipt")
            else none

abbrev MutationResult := Checked (RealizationMutationFields.checks (η := η) owner.recordName)

end RealizationOwner
end

end LotusIdea

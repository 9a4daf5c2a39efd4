import LotusIdea.Domain.ReviewGovernance
import Mathlib.Data.List.Sort

/-!
# Conversion intents and outcomes

`conversion_governance.py` and `conversion_outcome_policy.py`: how an approved
candidate becomes an intent under its review authority, how the outcomes of an
intent may follow each other, and the check before an intent is realised.
-/

set_option autoImplicit false

namespace LotusIdea

inductive ConversionBoundary where
  | intentOnly
  | downstreamRealizationRequired
  deriving DecidableEq, Repr

def ConversionBoundary.value : ConversionBoundary → String
  | .intentOnly => "intent_only"
  | .downstreamRealizationRequired => "downstream_realization_required"

def targetSourceAuthorities : ConversionTarget → SourceSystem
  | .adviseProposal => .lotusAdvise
  | .manageReview => .lotusManage
  | .reportEvidence => .lotusReport

def targetLifecycleStatus : ConversionTarget → IdeaLifecycleStatus
  | .adviseProposal => .convertedToProposal
  | .manageReview => .convertedToManageReview
  | .reportEvidence => .convertedToReport

/-! ## Intents -/

structure ConversionIntentCommandFields where
  conversionIntentId : String
  target : ConversionTarget
  actorSubject : String
  idempotencyKey : String
  reasonCodes : List ReasonCode
  requestedAtUtc : DateTime
  expectedReviewId : String
  expectedCandidateEvidence : CandidateEvidenceIdentity
  deriving DecidableEq

def ConversionIntentCommandFields.checks (c : ConversionIntentCommandFields) :
    List (Bool × PyError) :=
  [requireText c.conversionIntentId "conversion_intent_id",
   (decide (160 < c.conversionIntentId.toList.length),
     .valueError "conversion_intent_id must be at most 160 characters"),
   requireText c.actorSubject "actor_subject", requireText c.idempotencyKey "idempotency_key",
   requireText c.expectedReviewId "expected_review_id",
   requireAware c.requestedAtUtc "requested_at_utc",
   (c.reasonCodes.isEmpty, .valueError "reason_codes is required")]

abbrev ConversionIntentCommand := Checked ConversionIntentCommandFields.checks

structure GovernedConversionIntentFields where
  intent : IdeaConversionIntent
  evidencePacketId : String
  evidenceContentHash : String
  sourceRevisionVectorDigest : String
  sourceCutPosture : SourceCutPosture
  sourceSignalIds : List String
  actorSubject : String
  idempotencyKey : String
  reasonCodes : List ReasonCode
  targetSourceAuthority : SourceSystem
  acceptedAtUtc : DateTime
  reviewAuthorityGrant : Option ReviewAuthorityGrant := none
  acceptanceTimeSource : AcceptanceTimeSource := .serverAccepted
  boundary : ConversionBoundary := .intentOnly
  deriving DecidableEq

namespace GovernedConversionIntentFields

/-- What the constructor asks of the grant that the intent rests on. -/
def grantChecks (i : GovernedConversionIntentFields) (grant : ReviewAuthorityGrant) :
    List (Bool × PyError) :=
  let evidence := grant.val.candidateEvidence.val
  [(evidence.candidateId != i.intent.val.candidateId,
     .valueError "review authority candidate must match conversion intent"),
   (evidence.evidencePacketId != i.evidencePacketId,
     .valueError "review authority evidence packet must match conversion intent"),
   (evidence.evidenceContentHash != i.evidenceContentHash,
     .valueError "review authority evidence hash must match conversion intent"),
   (evidence.sourceRevisionVectorDigest != i.sourceRevisionVectorDigest ||
       evidence.sourceCutPosture != i.sourceCutPosture,
     .valueError "review authority source revision must match conversion intent"),
   (decide (i.acceptedAtUtc < grant.val.acceptedAtUtc),
     .valueError "review authority cannot postdate conversion acceptance")]

def checks (i : GovernedConversionIntentFields) : List (Bool × PyError) :=
  [requireText i.evidencePacketId "evidence_packet_id",
   requireText i.evidenceContentHash "evidence_content_hash",
   requireText i.sourceRevisionVectorDigest "source_revision_vector_digest",
   requireText i.actorSubject "actor_subject", requireText i.idempotencyKey "idempotency_key",
   requireAware i.acceptedAtUtc "accepted_at_utc",
   (i.sourceSignalIds.isEmpty, .valueError "source_signal_ids is required"),
   (i.reasonCodes.isEmpty, .valueError "reason_codes is required")] ++
  i.reviewAuthorityGrant.elim [] i.grantChecks

end GovernedConversionIntentFields

abbrev GovernedConversionIntent := Checked GovernedConversionIntentFields.checks

structure ConversionIntentResult where
  sourceCandidate : IdeaCandidate
  candidate : IdeaCandidate
  conversionIntent : GovernedConversionIntent
  auditEvent : AuditEvent

/-- `_ensure_candidate_ready_for_conversion`. -/
def conversionReadinessChecks (candidate : IdeaCandidate) (acceptedAtUtc : DateTime) :
    List (Bool × PyError) :=
  let refused (reason : String) := PyError.invalidConversionIntent candidate.val.candidateId reason
  let posture := candidate.val.evidencePacket.sourceCutPosture
  [(decide (candidate.val.lifecycleStatus ≠ .approved),
     refused "candidate lifecycle is not approved"),
   (decide (candidate.val.reviewPosture ≠ .approvedForConversion),
     refused "review posture is not approved"),
   (decide (candidate.val.evidencePacket.val.supportability ≠ .ready),
     refused "evidence is not ready"),
   (!sourceCutIsAuthoritative posture, refused ("source cut is " ++ posture.value)),
   (candidate.val.evidencePacket.val.applicabilityExpiresAtUtc.any fun expiry =>
      decide (expiry ≤ acceptedAtUtc), refused "candidate applicability has expired")]

section Intents
variable [Sha256]

/-- `_ensure_exact_review_authority`. -/
def ensureExactReviewAuthority (candidate : IdeaCandidate) (command : ConversionIntentCommand)
    (grant : ReviewAuthorityGrant) (acceptedAtUtc : DateTime) : Except PyError Unit := do
  let refused (reason : String) := PyError.invalidConversionIntent candidate.val.candidateId reason
  let expected := command.val.expectedCandidateEvidence
  validate
    [(decide (expected ≠ CandidateEvidenceIdentity.fromCandidate candidate),
       refused "expected candidate evidence identity is stale"),
     (grant.val.reviewId != command.val.expectedReviewId,
       refused "review authority identity differs"),
     (decide (grant.val.candidateEvidence ≠ expected),
       refused "review authority evidence differs")]
  let status ← grant.effectiveStatus candidate acceptedAtUtc
  validate [(decide (status ≠ .active), refused ("review authority is " ++ status.value))]

def requestConversionIntent (candidate : IdeaCandidate) (command : ConversionIntentCommand)
    (acceptedAtUtc : DateTime) (reviewAuthorityGrant : ReviewAuthorityGrant) :
    Except PyError ConversionIntentResult := do
  validate (requireAware acceptedAtUtc "accepted_at_utc" ::
    (observedTimeChecks command.val.requestedAtUtc acceptedAtUtc conversionIntentTimePolicy ++
      conversionReadinessChecks candidate acceptedAtUtc))
  ensureExactReviewAuthority candidate command reviewAuthorityGrant acceptedAtUtc
  let intent ← Checked.make IdeaConversionIntentFields.checks
    { conversionIntentId := command.val.conversionIntentId
      candidateId := candidate.val.candidateId
      target := command.val.target
      sourceStatus := candidate.val.lifecycleStatus
      requestedAtUtc := command.val.requestedAtUtc }
  let packet := candidate.val.evidencePacket
  let governedIntent ← Checked.make GovernedConversionIntentFields.checks
    { intent := intent
      evidencePacketId := packet.val.evidencePacketId
      evidenceContentHash := packet.val.lineageRef.val.contentHash
      sourceRevisionVectorDigest := packet.sourceRevisionVectorDigest
      sourceCutPosture := packet.sourceCutPosture
      sourceSignalIds := candidate.val.sourceSignalIds
      actorSubject := command.val.actorSubject
      idempotencyKey := command.val.idempotencyKey
      reasonCodes := command.val.reasonCodes
      targetSourceAuthority := targetSourceAuthorities command.val.target
      acceptedAtUtc := acceptedAtUtc
      reviewAuthorityGrant := some reviewAuthorityGrant }
  let transitionedCandidate ← transitionCandidate candidate
    (targetLifecycleStatus command.val.target) acceptedAtUtc
  let auditEvent ← AuditEvent.create
    { eventType := "idea.conversion.intent_requested"
      actorSubject := command.val.actorSubject
      outcome := "accepted"
      occurredAtUtc := acceptedAtUtc
      attributes :=
        [("boundary", governedIntent.val.boundary.value),
         ("candidate_family", candidate.val.family.value),
         ("source_revision_vector_digest", governedIntent.val.sourceRevisionVectorDigest),
         ("source_cut_posture", governedIntent.val.sourceCutPosture.value),
         ("conversion_target", command.val.target.value),
         ("evidence_packet_id", packet.val.evidencePacketId),
         ("target_source_authority", governedIntent.val.targetSourceAuthority.value),
         ("review_id", reviewAuthorityGrant.val.reviewId),
         ("review_policy_version", reviewAuthorityGrant.val.reviewPolicyVersion),
         ("review_authority_policy_version", reviewAuthorityGrant.val.authorityPolicyVersion),
         ("observed_at_utc", command.val.requestedAtUtc.isoformat)] }
  return ⟨candidate, transitionedCandidate, governedIntent, auditEvent⟩

theorem ensureExactReviewAuthority_returns {candidate : IdeaCandidate}
    {command : ConversionIntentCommand} {grant : ReviewAuthorityGrant} {acceptedAtUtc : DateTime}
    (run : ensureExactReviewAuthority candidate command grant acceptedAtUtc = .ok ()) :
    grant.val.candidateEvidence = CandidateEvidenceIdentity.fromCandidate candidate ∧
      grant.statusAt candidate acceptedAtUtc = .active := by
  simp only [ensureExactReviewAuthority] at run
  obtain ⟨_, _, run⟩ := Except.seq_returns.mp run
  obtain ⟨status, evaluated, run⟩ := Except.seq_returns.mp run
  have active := validate_eq_ok.mp run
  simp only [firstFailure_cons, decide_eq_false_iff_not, not_not] at active
  have told := (ReviewAuthorityGrant.effectiveStatus_returns evaluated).2
  rw [active.1] at told
  exact ⟨ReviewAuthorityGrant.evidence_of_active told, told⟩

/-- An intent is made of an approved candidate whose evidence the grant names,
and leaves the candidate converted with the same evidence. -/
theorem requestConversionIntent_returns {candidate : IdeaCandidate}
    {command : ConversionIntentCommand} {acceptedAtUtc : DateTime} {grant : ReviewAuthorityGrant}
    {result : ConversionIntentResult}
    (run : requestConversionIntent candidate command acceptedAtUtc grant = .ok result) :
    result.sourceCandidate = candidate ∧ SameEvidence candidate result.candidate ∧
      candidate.val.lifecycleStatus = .approved ∧
      result.candidate.val.lifecycleStatus = targetLifecycleStatus command.val.target ∧
      result.conversionIntent.val.reviewAuthorityGrant = some grant ∧
      result.conversionIntent.val.intent.val.candidateId = candidate.val.candidateId ∧
      result.conversionIntent.val.acceptedAtUtc = acceptedAtUtc ∧
      grant.val.candidateEvidence = CandidateEvidenceIdentity.fromCandidate candidate ∧
      grant.statusAt candidate acceptedAtUtc = .active := by
  simp only [requestConversionIntent] at run
  obtain ⟨_, allowed, run⟩ := Except.seq_returns.mp run
  obtain ⟨_, exact_, run⟩ := Except.seq_returns.mp run
  obtain ⟨intent, madeIntent, run⟩ := Except.seq_returns.mp run
  obtain ⟨governed, madeGoverned, run⟩ := Except.seq_returns.mp run
  obtain ⟨moved, transition, run⟩ := Except.seq_returns.mp run
  obtain ⟨audit, _, run⟩ := Except.seq_returns.mp run
  cases run
  have passed := validate_eq_ok.mp allowed
  simp only [conversionReadinessChecks, firstFailure_cons, firstFailure_append,
    decide_eq_false_iff_not, not_not] at passed
  obtain ⟨evidence, active⟩ := ensureExactReviewAuthority_returns exact_
  obtain ⟨_, posture, fields⟩ := transitionCandidate_returns transition
  have governedFields := Checked.make_eq_ok.mp madeGoverned
  have intentFields := Checked.make_eq_ok.mp madeIntent
  refine ⟨rfl, transitionCandidate_sameEvidence transition, passed.2.2.1, ?_, ?_, ?_, ?_,
    evidence, active⟩
  · rw [fields]
  · rw [governedFields]
  · rw [governedFields]
    simp only [intentFields]
  · rw [governedFields]

/-- The intent is recorded as it was asked for. -/
theorem requestConversionIntent_intent {candidate : IdeaCandidate}
    {command : ConversionIntentCommand} {acceptedAtUtc : DateTime} {grant : ReviewAuthorityGrant}
    {result : ConversionIntentResult}
    (run : requestConversionIntent candidate command acceptedAtUtc grant = .ok result) :
    let governed := result.conversionIntent.val
    let intent := governed.intent.val
    intent.conversionIntentId = command.val.conversionIntentId ∧
      intent.candidateId = candidate.val.candidateId ∧ intent.target = command.val.target ∧
      intent.requestedAtUtc = command.val.requestedAtUtc ∧
      governed.actorSubject = command.val.actorSubject ∧
      governed.idempotencyKey = command.val.idempotencyKey ∧
      governed.reasonCodes = command.val.reasonCodes := by
  simp only [requestConversionIntent] at run
  obtain ⟨_, _, run⟩ := Except.seq_returns.mp run
  obtain ⟨_, _, run⟩ := Except.seq_returns.mp run
  obtain ⟨intent, madeIntent, run⟩ := Except.seq_returns.mp run
  obtain ⟨governed, madeGoverned, run⟩ := Except.seq_returns.mp run
  obtain ⟨_, _, run⟩ := Except.seq_returns.mp run
  obtain ⟨_, _, run⟩ := Except.seq_returns.mp run
  cases run
  have governedFields := Checked.make_eq_ok.mp madeGoverned
  have intentFields := Checked.make_eq_ok.mp madeIntent
  simp only [governedFields, intentFields, and_self]

end Intents

/-! ## Outcomes -/

structure ConversionOutcomeCommandFields where
  conversionOutcomeId : String
  status : ConversionOutcomeStatus
  sourceSystem : SourceSystem
  sourceEventVersion : Int
  recordedAtUtc : DateTime
  downstreamReference : Option String := none
  actorSubject : String := "downstream-system"
  supersedesConversionOutcomeId : Option String := none
  correctionReason : Option String := none
  deriving DecidableEq

def ConversionOutcomeCommandFields.checks (c : ConversionOutcomeCommandFields) :
    List (Bool × PyError) :=
  [requireText c.conversionOutcomeId "conversion_outcome_id",
   requireText c.actorSubject "actor_subject",
   (decide (c.sourceEventVersion ≤ 0), .valueError "source_event_version must be positive"),
   requireAware c.recordedAtUtc "recorded_at_utc",
   requireOptionalText c.downstreamReference "downstream_reference",
   requireOptionalText c.supersedesConversionOutcomeId "supersedes_conversion_outcome_id",
   requireOptionalText c.correctionReason "correction_reason"]

abbrev ConversionOutcomeCommand := Checked ConversionOutcomeCommandFields.checks

structure ConversionOutcomeIdentity where
  conversionOutcomeId : String
  conversionIntentId : String
  target : ConversionTarget
  sourceSystem : SourceSystem
  sourceEventVersion : Int
  status : ConversionOutcomeStatus
  downstreamReference : Option String
  recordedAtUtc : DateTime
  actorSubject : String
  supersedesConversionOutcomeId : Option String := none
  correctionReason : Option String := none
  deriving DecidableEq

namespace ConversionOutcomeIdentity

def inUtc (i : ConversionOutcomeIdentity) : ConversionOutcomeIdentity :=
  { i with recordedAtUtc := i.recordedAtUtc.inUtc }

/-- `==` on outcome identities. -/
def equals (a b : ConversionOutcomeIdentity) : Bool := decide (a.inUtc = b.inUtc)

/-- The order of outcomes: event version, recording time, outcome id. -/
def precedes (a b : ConversionOutcomeIdentity) : Bool :=
  a.sourceEventVersion < b.sourceEventVersion ||
    (a.sourceEventVersion = b.sourceEventVersion &&
      (a.recordedAtUtc < b.recordedAtUtc ||
        (a.recordedAtUtc.instant = b.recordedAtUtc.instant &&
          a.conversionOutcomeId ≤ b.conversionOutcomeId)))

/-- `_latest_conversion_outcome_identity`: of equal keys the first wins. -/
def latest : List ConversionOutcomeIdentity → Option ConversionOutcomeIdentity
  | [] => none
  | first :: rest =>
      some (rest.foldl (fun best item => if item.precedes best then best else item) first)

end ConversionOutcomeIdentity

structure GovernedConversionOutcomeFields where
  outcome : IdeaConversionOutcome
  conversionIntentId : String
  target : ConversionTarget
  sourceSystem : SourceSystem
  boundary : ConversionBoundary
  sourceEventVersion : Int
  actorSubject : String
  acceptedAtUtc : DateTime
  acceptanceTimeSource : AcceptanceTimeSource := .serverAccepted
  supersedesConversionOutcomeId : Option String := none
  correctionReason : Option String := none
  deriving DecidableEq

def GovernedConversionOutcomeFields.checks (o : GovernedConversionOutcomeFields) :
    List (Bool × PyError) :=
  [requireAware o.acceptedAtUtc "accepted_at_utc"]

abbrev GovernedConversionOutcome := Checked GovernedConversionOutcomeFields.checks

def GovernedConversionOutcome.identity (o : GovernedConversionOutcome) :
    ConversionOutcomeIdentity where
  conversionOutcomeId := o.val.outcome.val.conversionOutcomeId
  conversionIntentId := o.val.conversionIntentId
  target := o.val.target
  sourceSystem := o.val.sourceSystem
  sourceEventVersion := o.val.sourceEventVersion
  status := o.val.outcome.val.status
  downstreamReference := o.val.outcome.val.downstreamReference
  recordedAtUtc := o.val.outcome.val.recordedAtUtc
  actorSubject := o.val.actorSubject
  supersedesConversionOutcomeId := o.val.supersedesConversionOutcomeId
  correctionReason := o.val.correctionReason

def conversionOutcomeIdentityFromCommand (governedIntent : GovernedConversionIntent)
    (command : ConversionOutcomeCommand) : ConversionOutcomeIdentity where
  conversionOutcomeId := command.val.conversionOutcomeId
  conversionIntentId := governedIntent.val.intent.val.conversionIntentId
  target := governedIntent.val.intent.val.target
  sourceSystem := command.val.sourceSystem
  sourceEventVersion := command.val.sourceEventVersion
  status := command.val.status
  downstreamReference := command.val.downstreamReference
  recordedAtUtc := command.val.recordedAtUtc
  actorSubject := command.val.actorSubject
  supersedesConversionOutcomeId := command.val.supersedesConversionOutcomeId
  correctionReason := command.val.correctionReason

structure ConversionOutcomeResult where
  conversionOutcome : GovernedConversionOutcome
  auditEvent : AuditEvent

/-! ### The outcome policy -/

def conversionOutcomePolicyVersion : String := "idea-conversion-outcome-v1"

def initialStatuses : List ConversionOutcomeStatus := [.requested, .accepted, .rejected, .failed]

def allowedNextStatuses : ConversionOutcomeStatus → List ConversionOutcomeStatus
  | .requested => [.accepted, .rejected, .failed]
  | .accepted => [.completed]
  | .rejected => []
  | .failed => []
  | .completed => []

/-- `_validate_initial_outcome`. -/
def initialOutcomeViolation (proposed : ConversionOutcomeIdentity) :
    Option ConversionOutcomePolicyReason :=
  if proposed.sourceEventVersion ≠ 1 then some .versionConflict
  else if proposed.supersedesConversionOutcomeId.isSome || proposed.correctionReason.isSome then
    some .invalidCorrection
  else if !initialStatuses.contains proposed.status then some .invalidTransition
  else none

/-- `_validate_correction`. -/
def correctionViolation (current proposed : ConversionOutcomeIdentity) :
    Option ConversionOutcomePolicyReason :=
  if proposed.supersedesConversionOutcomeId ≠ some current.conversionOutcomeId then
    some .invalidCorrection
  else if proposed.correctionReason.all PyText.isBlank then some .invalidCorrection
  else if proposed.status = .requested then some .invalidCorrection
  else none

/-- What `_validate_next_conversion_outcome` raises. -/
def nextOutcomeViolation (existing : List ConversionOutcomeIdentity)
    (proposed : ConversionOutcomeIdentity) : Option ConversionOutcomePolicyReason :=
  match existing.find? fun item => item.conversionOutcomeId = proposed.conversionOutcomeId with
  | some matching_ =>
      some (if matching_.equals proposed then .duplicateIdentity else .identityConflict)
  | none =>
      match ConversionOutcomeIdentity.latest existing with
      | none => initialOutcomeViolation proposed
      | some current =>
          if proposed.conversionIntentId ≠ current.conversionIntentId ∨
              proposed.target ≠ current.target ∨ proposed.sourceSystem ≠ current.sourceSystem then
            some .identityConflict
          else if proposed.sourceEventVersion ≠ current.sourceEventVersion + 1 then
            some .versionConflict
          else if proposed.recordedAtUtc ≤ current.recordedAtUtc then some .outOfOrderEvent
          else if proposed.supersedesConversionOutcomeId.isSome then
            correctionViolation current proposed
          else if proposed.correctionReason.isSome then some .invalidCorrection
          else if !(allowedNextStatuses current.status).contains proposed.status then
            some .invalidTransition
          else none

/-- The loop of `validate_conversion_outcome_history` over sorted outcomes. -/
def historyViolation (accepted : List ConversionOutcomeIdentity) :
    List ConversionOutcomeIdentity → Option ConversionOutcomePolicyReason
  | [] => none
  | outcome :: rest =>
      match nextOutcomeViolation accepted outcome with
      | some reason => some reason
      | none => historyViolation (accepted ++ [outcome]) rest

/-- What `validate_conversion_outcome_progression` raises. -/
def progressionViolation (existing : List ConversionOutcomeIdentity)
    (proposed : ConversionOutcomeIdentity) : Option ConversionOutcomePolicyReason :=
  match historyViolation [] (existing.insertionSort fun a b => a.precedes b) with
  | some reason => some reason
  | none => nextOutcomeViolation existing proposed

/-- `record_conversion_outcome` of the domain. -/
def recordConversionOutcome (governedIntent : GovernedConversionIntent)
    (command : ConversionOutcomeCommand) (acceptedAtUtc : DateTime)
    (existingOutcomes : List GovernedConversionOutcome) :
    Except PyError ConversionOutcomeResult := do
  let intent := governedIntent.val.intent.val
  let expectedSource := targetSourceAuthorities intent.target
  validate (requireAware acceptedAtUtc "accepted_at_utc" ::
    (observedTimeChecks command.val.recordedAtUtc acceptedAtUtc downstreamOutcomeTimePolicy ++
    [(command.val.sourceSystem != expectedSource,
       .invalidConversionOutcome intent.conversionIntentId
         ("outcome source must be " ++ expectedSource.value)),
     ((command.val.status = .accepted || command.val.status = .completed) &&
         command.val.downstreamReference.isNone,
       .invalidConversionOutcome intent.conversionIntentId
         "accepted or completed outcome requires downstream reference")]))
  let outcome ← Checked.make IdeaConversionOutcomeFields.checks
    { conversionOutcomeId := command.val.conversionOutcomeId
      conversionIntentId := intent.conversionIntentId
      status := command.val.status
      downstreamReference := command.val.downstreamReference
      recordedAtUtc := command.val.recordedAtUtc }
  let governedOutcome ← Checked.make GovernedConversionOutcomeFields.checks
    { outcome := outcome
      conversionIntentId := intent.conversionIntentId
      target := intent.target
      sourceSystem := command.val.sourceSystem
      boundary := .downstreamRealizationRequired
      sourceEventVersion := command.val.sourceEventVersion
      actorSubject := command.val.actorSubject
      acceptedAtUtc := acceptedAtUtc
      supersedesConversionOutcomeId := command.val.supersedesConversionOutcomeId
      correctionReason := command.val.correctionReason }
  match progressionViolation (existingOutcomes.map GovernedConversionOutcome.identity)
      (GovernedConversionOutcome.identity governedOutcome) with
  | some reason =>
      throw (.invalidConversionOutcome intent.conversionIntentId reason.value)
  | none =>
      let auditEvent ← AuditEvent.create
        { eventType := "idea.conversion.outcome_recorded"
          actorSubject := command.val.actorSubject
          outcome := "accepted"
          occurredAtUtc := acceptedAtUtc
          attributes :=
            [("boundary", governedOutcome.val.boundary.value),
             ("conversion_status", command.val.status.value),
             ("conversion_target", intent.target.value),
             ("source_system", command.val.sourceSystem.value),
             ("source_event_version", toString command.val.sourceEventVersion),
             ("observed_at_utc", command.val.recordedAtUtc.isoformat),
             ("policy_version", conversionOutcomePolicyVersion),
             ("supersedes_outcome",
               if command.val.supersedesConversionOutcomeId.isSome then "true" else "false")] }
      return ⟨governedOutcome, auditEvent⟩

/-- The outcome is recorded under the identity of its command. -/
theorem recordConversionOutcome_identity {governedIntent : GovernedConversionIntent}
    {command : ConversionOutcomeCommand} {acceptedAtUtc : DateTime}
    {existingOutcomes : List GovernedConversionOutcome} {result : ConversionOutcomeResult}
    (run : recordConversionOutcome governedIntent command acceptedAtUtc existingOutcomes =
      .ok result) :
    GovernedConversionOutcome.identity result.conversionOutcome =
      conversionOutcomeIdentityFromCommand governedIntent command := by
  simp only [recordConversionOutcome] at run
  obtain ⟨_, _, run⟩ := Except.seq_returns.mp run
  obtain ⟨outcome, madeOutcome, run⟩ := Except.seq_returns.mp run
  obtain ⟨governed, madeGoverned, run⟩ := Except.seq_returns.mp run
  split at run
  · cases run
  obtain ⟨_, _, run⟩ := Except.seq_returns.mp run
  cases run
  have governedFields := Checked.make_eq_ok.mp madeGoverned
  have outcomeFields := Checked.make_eq_ok.mp madeOutcome
  simp only [GovernedConversionOutcome.identity, governedFields, outcomeFields]
  rfl

/-! ## Realising an intent -/

section Realization
variable [Sha256]

/-- The evidence identity that the intent retains. -/
def retainedEvidence (governedIntent : GovernedConversionIntent) (grant : ReviewAuthorityGrant) :
    CandidateEvidenceIdentityFields where
  candidateId := governedIntent.val.intent.val.candidateId
  materialVersion := grant.val.candidateEvidence.val.materialVersion
  evidenceVersion := grant.val.candidateEvidence.val.evidenceVersion
  evidencePacketId := governedIntent.val.evidencePacketId
  evidenceContentHash := governedIntent.val.evidenceContentHash
  sourceRevisionVectorDigest := governedIntent.val.sourceRevisionVectorDigest
  sourceCutPosture := governedIntent.val.sourceCutPosture

def validateConversionIntentForRealization (candidate : IdeaCandidate)
    (governedIntent : GovernedConversionIntent) (evaluatedAtUtc : DateTime) :
    Except PyError Unit := do
  let intent := governedIntent.val.intent.val
  let refused (reason : String) := PyError.invalidConversionIntent candidate.val.candidateId reason
  validate [requireAware evaluatedAtUtc "evaluated_at_utc"]
  match governedIntent.val.reviewAuthorityGrant with
  | none => throw (refused "review authority is missing")
  | some grant =>
      let retained ← Checked.make CandidateEvidenceIdentityFields.checks
        (retainedEvidence governedIntent grant)
      validate
        [(decide (intent.sourceStatus ≠ .approved), refused "source lifecycle is not approved"),
         (decide (candidate.val.lifecycleStatus ≠ targetLifecycleStatus intent.target),
           refused "candidate conversion target changed"),
         (decide (governedIntent.val.targetSourceAuthority ≠ targetSourceAuthorities intent.target),
           refused "target source authority changed"),
         (decide (retained ≠ CandidateEvidenceIdentity.fromCandidate candidate),
           refused "candidate evidence changed"),
         (!sourceCutIsAuthoritative governedIntent.val.sourceCutPosture,
           refused "source cut is not authoritative")]
      let status ← grant.effectiveStatus candidate evaluatedAtUtc
      validate [(decide (status ≠ .active), refused "review authority is not active")]

/-- An intent passes only while its grant is active. -/
theorem validateConversionIntentForRealization_returns {candidate : IdeaCandidate}
    {governedIntent : GovernedConversionIntent} {evaluatedAtUtc : DateTime}
    (run : validateConversionIntentForRealization candidate governedIntent evaluatedAtUtc = .ok ()) :
    ∃ grant, governedIntent.val.reviewAuthorityGrant = some grant ∧
      grant.effectiveStatus candidate evaluatedAtUtc = .ok .active := by
  simp only [validateConversionIntentForRealization] at run
  obtain ⟨_, _, run⟩ := Except.seq_returns.mp run
  split at run
  · cases run
  · rename_i grant held
    obtain ⟨_, _, run⟩ := Except.seq_returns.mp run
    obtain ⟨_, _, run⟩ := Except.seq_returns.mp run
    obtain ⟨status, evaluated, run⟩ := Except.seq_returns.mp run
    have active := validate_eq_ok.mp run
    simp only [firstFailure_cons, decide_eq_false_iff_not, not_not] at active
    rw [active.1] at evaluated
    exact ⟨grant, held, evaluated⟩

end Realization

end LotusIdea

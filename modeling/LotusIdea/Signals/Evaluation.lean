import LotusIdea.Domain.OpportunityIdentity
import LotusIdea.Domain.Scoring
import LotusIdea.Foundation.Guards

/-!
# Evaluating a signal

`signal_evaluation_models.py`, `signal_evaluation_common.py`,
`source_temporal.py` and the signal of `ideas.py`: what an evaluation answers,
the guards that the families share, and the candidate that an eligible
observation becomes.
-/

set_option autoImplicit false

/-- `str.upper` and `str.lower`. -/
class CaseMapping where
  upper : String → String
  lower : String → String

namespace LotusIdea

structure OpportunitySignalFields where
  signalId : String
  family : OpportunityFamily
  sourceRefs : List SourceRef
  reasonCodes : List ReasonCode
  detectedAtUtc : DateTime
  expiresAtUtc : Option DateTime := none
  deriving DecidableEq

def OpportunitySignalFields.checks (s : OpportunitySignalFields) : List (Bool × PyError) :=
  [requireText s.signalId "signal_id", requireAware s.detectedAtUtc "detected_at_utc"] ++
  (s.expiresAtUtc.elim [] fun expiry =>
    [requireAware expiry "expires_at_utc",
     (decide (expiry ≤ s.detectedAtUtc),
       .valueError "expires_at_utc must be after detected_at_utc")]) ++
  [(s.sourceRefs.isEmpty, .valueError "source_refs is required"),
   (s.reasonCodes.isEmpty, .valueError "reason_codes is required")]

abbrev OpportunitySignal := Checked OpportunitySignalFields.checks

inductive SignalEvaluationOutcome where
  | candidateCreated
  | notEligible
  | blocked
  deriving DecidableEq, Repr

structure SignalEvaluationResult where
  outcome : SignalEvaluationOutcome
  family : OpportunityFamily
  reasonCodes : List ReasonCode
  unsupportedReasons : List UnsupportedEvidenceReason := []
  signal : Option OpportunitySignal := none
  candidate : Option IdeaCandidate := none
  deriving DecidableEq

abbrev Evaluation := Except PyError SignalEvaluationResult

/-! ## Guards -/

/-- `validate_timezone_aware_evaluation_time`. -/
def validateEvaluationTime (evaluatedAtUtc : DateTime) : Except PyError Unit :=
  validate [requireAware evaluatedAtUtc "evaluated_at_utc"]

/-- `blocked_signal_result`. -/
def blockedSignalResult (family : OpportunityFamily) (reasonCodes : List ReasonCode)
    (unsupportedReasons : List UnsupportedEvidenceReason) : SignalEvaluationResult :=
  { outcome := .blocked, family, reasonCodes, unsupportedReasons }

def entitlementDenied (family : OpportunityFamily) : SignalEvaluationResult :=
  blockedSignalResult family [.reviewRequired] [.entitlementDenied]

/-- Sources or values that are not there; one reason for each. -/
def missingSources (family : OpportunityFamily) (count : Nat) : SignalEvaluationResult :=
  blockedSignalResult family [.sourcePartial] (List.replicate count .missingSource)

def staleSource (family : OpportunityFamily) : SignalEvaluationResult :=
  blockedSignalResult family [.sourceStale] [.staleSource]

def uncertifiedSource (family : OpportunityFamily) : SignalEvaluationResult :=
  blockedSignalResult family [.sourcePartial] [.sourceUncertified]

def belowMateriality (family : OpportunityFamily) : SignalEvaluationResult :=
  { outcome := .notEligible, family, reasonCodes := [.belowMateriality] }

/-- `source_temporal_violation`: every family's contract asks for the exact
business date and for sources that are not generated after the evaluation. -/
def sourceTemporalViolation (requestedAsOfDate : Date) (evaluatedAtUtc : DateTime)
    (sourceRefs : List SourceRef) : Option (ReasonCode × UnsupportedEvidenceReason) :=
  sourceRefs.findSome? fun r =>
    if r.val.asOfDate ≠ requestedAsOfDate then
      some (.sourceDateMismatch, .sourceTemporalMismatch)
    else if evaluatedAtUtc < r.val.generatedAtUtc then
      some (.sourceGeneratedAfterEvaluation, .sourceTemporalMismatch)
    else none

/-- `temporal_blocked_signal_result`. -/
def temporalBlockedSignalResult (family : OpportunityFamily) (asOfDate : Date)
    (evaluatedAtUtc : DateTime) (sourceRefs : List SourceRef) : Option SignalEvaluationResult :=
  (sourceTemporalViolation asOfDate evaluatedAtUtc sourceRefs).map fun (reason, unsupported) =>
    blockedSignalResult family [reason] [unsupported]

def anyStale (sourceRefs : List SourceRef) : Bool :=
  sourceRefs.any fun r => r.val.freshness != .current

/-! ## The candidate -/

/-- What a family puts into the candidate of an eligible observation. -/
structure Detection where
  family : OpportunityFamily
  opportunityKind : String
  asOfDate : Date
  evaluatedAtUtc : DateTime
  accessScope : Option ReviewAccessScope
  materialFacts : MaterialFacts
  sourceRefs : List SourceRef
  signalReasons : List ReasonCode
  evidenceReasons : List ReasonCode
  reviewPosture : ReviewPosture
  applicabilityExpiresAtUtc : Option DateTime := none

namespace Detection
variable [Sha256]

def identity (d : Detection) : Except PyError OpportunityIdentity :=
  buildOpportunityIdentity d.family d.opportunityKind d.asOfDate d.accessScope d.materialFacts
    d.sourceRefs

def signal (d : Detection) (identity : OpportunityIdentity) : Except PyError OpportunitySignal :=
  Checked.make OpportunitySignalFields.checks
    { signalId := identity.signalId
      family := d.family
      sourceRefs := d.sourceRefs
      reasonCodes := d.signalReasons
      detectedAtUtc := d.evaluatedAtUtc
      expiresAtUtc := d.applicabilityExpiresAtUtc }

/-- `_lineage_ref`. -/
def lineageRef (d : Detection) (identity : OpportunityIdentity) : Except PyError LineageRef :=
  Checked.make LineageRefFields.checks
    { lineageId := identity.lineageId
      sourceRefs := d.sourceRefs
      contentHash := identity.evidenceFingerprint }

def evidencePacket (d : Detection) (identity : OpportunityIdentity) (lineage : LineageRef) :
    Except PyError IdeaEvidencePacket :=
  Checked.make IdeaEvidencePacketFields.checks
    { evidencePacketId := identity.evidencePacketId
      supportability := .ready
      sourceRefs := d.sourceRefs
      lineageRef := lineage
      reasonCodes := d.evidenceReasons
      unsupportedReasons := []
      createdAtUtc := d.evaluatedAtUtc
      applicabilityExpiresAtUtc := d.applicabilityExpiresAtUtc }

def candidate (d : Detection) (identity : OpportunityIdentity) (signal : OpportunitySignal)
    (evidencePacket : IdeaEvidencePacket) (score : Except PyError IdeaScore) :
    Except PyError IdeaCandidate := do
  let initial ← identity.initialCandidateIdentity
  let ideaScore ← score
  IdeaCandidate.create
    { candidateId := identity.candidateId
      identity := initial
      family := d.family
      lifecycleStatus := .generated
      reviewPosture := d.reviewPosture
      evidencePacket := evidencePacket
      sourceSignalIds := [signal.val.signalId]
      score := some ideaScore
      accessScope := d.accessScope
      createdAtUtc := d.evaluatedAtUtc
      updatedAtUtc := d.evaluatedAtUtc }

/-- The `_candidate_created_result` that all families share. -/
def created (d : Detection) (score : Except PyError IdeaScore) : Evaluation := do
  let identity ← d.identity
  let signal ← d.signal identity
  let lineage ← d.lineageRef identity
  let packet ← d.evidencePacket identity lineage
  let candidate ← d.candidate identity signal packet score
  return {
    outcome := .candidateCreated
    family := d.family
    reasonCodes := packet.val.reasonCodes
    signal := some signal
    candidate := some candidate }

end Detection

end LotusIdea

import LotusIdea.Domain.Enumerations
import LotusIdea.Domain.SourceEvidence

/-!
# The stored candidate

The JSON form of a candidate in `postgres_codecs.py` and `evidence_payloads.py`:
what is written, what is read, and that what is read is the candidate that was
written, with the causal inputs of its sources in the order of their products.
-/

set_option autoImplicit false

namespace LotusIdea

open Json

abbrev Decoded (α : Type) := Except (DecodeError PyError) α

/-! ## Sources -/

/-- `access_scope_payload`. -/
def accessScopePayload (scope : ReviewAccessScope) : Json :=
  .obj
    [("tenant_id", .str scope.val.tenantId),
     ("book_id", .str scope.val.bookId),
     ("portfolio_id", .str scope.val.portfolioId),
     ("client_id", .str scope.val.clientId)]

/-- `_access_scope_from_json`. -/
def accessScopeFromJson (payload : Json) : Decoded ReviewAccessScope := do
  let tenantId ← item readText payload "tenant_id"
  let bookId ← item readText payload "book_id"
  let portfolioId ← item readText payload "portfolio_id"
  let clientId ← item readText payload "client_id"
  construct ⟨tenantId, bookId, portfolioId, clientId⟩

/-- `_causal_input_revision`. -/
def causalInputRevisionFromPayload (payload : Json) : Decoded CausalInputRevision := do
  let productId ← item readText payload "product_id"
  let sourceRevision ← item readText payload "source_revision"
  let restatementVersion ← optionalItem readText payload "restatement_version"
  construct ⟨productId, sourceRevision, restatementVersion⟩

/-- `_optional_mapping`. -/
def optionalMapping : Json → Decoded (Option Json)
  | .null => .ok none
  | .obj fields => .ok (some (.obj fields))
  | _ => .error (.valueError "source revision metadata must be a JSON object")

def keys : Json → List String
  | .obj fields => fields.map Prod.fst
  | _ => []

def ownerClaimsFromPayload (payload : Json) : Decoded SourceRevisionClaims := do
  let causalInputRevisions ←
    match ← (getOr payload "causal_input_revisions" (.arr []) : Decoded Json) with
    | .arr items => items.mapM causalInputRevisionFromPayload
    | _ => .error (.valueError "causal_input_revisions must be an array")
  let snapshotId ← optionalItem readText payload "snapshot_id"
  let sourceRevision ← optionalItem readText payload "source_revision"
  let restatementVersion ← optionalItem readText payload "restatement_version"
  let sourceBatchId ← optionalItem readText payload "source_batch_id"
  let sourceCutId ← optionalItem readText payload "source_cut_id"
  let calculationRunId ← optionalItem readText payload "calculation_run_id"
  let methodologyVersion ← optionalItem readText payload "methodology_version"
  let policyVersion ← optionalItem readText payload "policy_version"
  let reconciliationPosture ← itemOr readMember payload "reconciliation_posture" (.str "unknown")
  construct
    { snapshotId, sourceRevision, restatementVersion, sourceBatchId, sourceCutId,
      calculationRunId, methodologyVersion, policyVersion, causalInputRevisions,
      reconciliationPosture }

/-- `source_revision_claims_from_payload`. -/
def sourceRevisionClaimsFromPayload : Option Json → Decoded (Option SourceRevisionClaims)
  | none => .ok none
  | some payload => do
      match ← (getOr payload "claim_posture" .null : Decoded Json) with
      | .str "unknown" =>
          if (keys payload).all (· = "claim_posture") then .ok none
          else .error (.valueError
            "unknown source revision claims cannot carry owner claim fields")
      | .str "owner_claimed" => return some (← ownerClaimsFromPayload payload)
      | _ => .error (.valueError "source revision claim_posture is invalid")

/-- `source_ref_payload`. -/
def sourceRefPayload (r : SourceRef) : Json :=
  .obj
    [("product_id", .str r.val.productId),
     ("source_system", ofMember r.val.sourceSystem),
     ("product_version", .str r.val.productVersion),
     ("route", .str r.val.route),
     ("as_of_date", ofDay r.val.asOfDate),
     ("generated_at_utc", ofTime r.val.generatedAtUtc),
     ("content_hash", .str r.val.contentHash),
     ("data_quality_status", .str r.val.dataQualityStatus),
     ("freshness", ofMember r.val.freshness),
     ("revision_claims", sourceRevisionClaimsPayload r.val.revisionClaims)]

/-- `_source_ref_from_json`. -/
def sourceRefFromJson (payload : Json) : Decoded SourceRef := do
  let productId ← item readText payload "product_id"
  let sourceSystem ← item readMember payload "source_system"
  let productVersion ← item readText payload "product_version"
  let route ← item readText payload "route"
  let asOfDate ← item readDay payload "as_of_date"
  let generatedAtUtc ← item readTime payload "generated_at_utc"
  let contentHash ← item readText payload "content_hash"
  let dataQualityStatus ← item readText payload "data_quality_status"
  let freshness ← item readMember payload "freshness"
  let revisionClaims ← sourceRevisionClaimsFromPayload
    (← optionalMapping (← getOr payload "revision_claims" .null))
  construct
    { productId, sourceSystem, productVersion, route, asOfDate, generatedAtUtc, contentHash,
      dataQualityStatus, freshness, revisionClaims }

/-! ## Evidence -/

/-- `source_cut_tolerance_payload`. -/
def sourceCutTolerancePayload (tolerance : SourceCutTolerance) : Json :=
  .obj
    [("policy_version", .str tolerance.val.policyVersion),
     ("maximum_generated_time_skew_seconds",
       .int tolerance.val.maximumGeneratedTimeSkewSeconds)]

/-- `source_cut_tolerance_from_payload`. -/
def sourceCutToleranceFromPayload : Option Json → Decoded (Option SourceCutTolerance)
  | none => .ok none
  | some payload => do
      let policyVersion ← item readText payload "policy_version"
      let skew ← item readInt payload "maximum_generated_time_skew_seconds"
      return some (← construct ⟨policyVersion, skew⟩)

/-- `_lineage_ref_to_json`. -/
def lineageRefToJson (l : LineageRef) : Json :=
  .obj
    [("lineage_id", .str l.val.lineageId),
     ("source_refs", .arr (l.val.sourceRefs.map sourceRefPayload)),
     ("content_hash", .str l.val.contentHash)]

/-- `_lineage_ref_from_json`. -/
def lineageRefFromJson (payload : Json) : Decoded LineageRef := do
  let lineageId ← item readText payload "lineage_id"
  let sourceRefs ← item (readArray sourceRefFromJson) payload "source_refs"
  let contentHash ← item readText payload "content_hash"
  construct ⟨lineageId, sourceRefs, contentHash⟩

section
variable [Sha256]

/-- `_evidence_packet_to_json`. -/
def evidencePacketToJson (p : IdeaEvidencePacket) : Json :=
  .obj
    [("evidence_packet_id", .str p.val.evidencePacketId),
     ("supportability", ofMember p.val.supportability),
     ("source_refs", .arr (p.val.sourceRefs.map sourceRefPayload)),
     ("lineage_ref", lineageRefToJson p.val.lineageRef),
     ("reason_codes", .arr (p.val.reasonCodes.map ofMember)),
     ("unsupported_reasons", .arr (p.val.unsupportedReasons.map ofMember)),
     ("created_at_utc", ofTime p.val.createdAtUtc),
     ("applicability_expires_at_utc", ofOption ofTime p.val.applicabilityExpiresAtUtc),
     ("source_cut_posture", ofMember p.sourceCutPosture),
     ("source_cut_tolerance", ofOption sourceCutTolerancePayload p.val.sourceCutTolerance),
     ("source_revision_vector_digest", .str p.sourceRevisionVectorDigest)]

/-- `_verify_derived_source_revision_fields`. -/
def verifyDerivedSourceRevisionFields (payload : Json) (p : IdeaEvidencePacket) :
    Decoded Unit := do
  let persistedDigest ← optionalItem readText payload "source_revision_vector_digest"
  if persistedDigest.any (· != p.sourceRevisionVectorDigest) then
    .error (.valueError "persisted source revision vector digest does not match source claims")
  let persistedPosture ← optionalItem readText payload "source_cut_posture"
  if persistedPosture.any (· != p.sourceCutPosture.value) then
    .error (.valueError "persisted source cut posture does not match source claims")

/-- `_evidence_packet_from_json`. -/
def evidencePacketFromJson (payload : Json) : Decoded IdeaEvidencePacket := do
  let evidencePacketId ← item readText payload "evidence_packet_id"
  let supportability ← item readMember payload "supportability"
  let sourceRefs ← item (readArray sourceRefFromJson) payload "source_refs"
  let lineageRef ← item lineageRefFromJson payload "lineage_ref"
  let reasonCodes ← item (readArray readMember) payload "reason_codes"
  let unsupportedReasons ← item (readArray readMember) payload "unsupported_reasons"
  let createdAtUtc ← item readTime payload "created_at_utc"
  let applicabilityExpiresAtUtc ← optionalItem readTime payload "applicability_expires_at_utc"
  let sourceCutTolerance ← sourceCutToleranceFromPayload
    (← optionalMapping (← getOr payload "source_cut_tolerance" .null))
  let packet : IdeaEvidencePacket ← construct
    { evidencePacketId, supportability, sourceRefs, lineageRef, reasonCodes, unsupportedReasons,
      createdAtUtc, applicabilityExpiresAtUtc, sourceCutTolerance }
  verifyDerivedSourceRevisionFields payload packet
  return packet

end

/-! ## Scores -/

def scoreContributionToJson (c : ScoreContribution) : Json :=
  .obj
    [("component", ofMember c.val.component),
     ("input_score", ofDecimal c.val.inputScore),
     ("weight", ofDecimal c.val.weight),
     ("contribution", ofDecimal c.val.contribution)]

def scoreContributionFromJson (payload : Json) : Decoded ScoreContribution := do
  let component ← item readMember payload "component"
  let inputScore ← item readDecimal payload "input_score"
  let weight ← item readDecimal payload "weight"
  let contribution ← item readDecimal payload "contribution"
  construct ⟨component, inputScore, weight, contribution⟩

/-- `_score_to_json`. -/
def scoreToJson (s : IdeaScore) : Json :=
  .obj
    [("policy_version", .str s.val.policyVersion),
     ("score", ofDecimal s.val.score),
     ("reason_codes", .arr (s.val.reasonCodes.map ofMember)),
     ("contributions", .arr (s.val.contributions.map scoreContributionToJson)),
     ("conflict_penalty_applied", ofDecimal s.val.conflictPenaltyApplied)]

/-- `CandidateScorePolicyVersion(text).value`. -/
def candidateScorePolicyVersion (text : String) : Decoded String :=
  if text ∈ defaultRankableScorePolicyVersions then .ok text
  else .error (.valueError (text ++ " is not a valid CandidateScorePolicyVersion"))

/-- `_score_from_json`. -/
def scoreFromJson (payload : Json) : Decoded IdeaScore := do
  if !(keys payload).contains "contributions" then
    .error (.valueError
      "persisted candidate score breakdown is required; apply database migration 021")
  let policyVersion ← candidateScorePolicyVersion (← item readText payload "policy_version")
  let score ← item readDecimal payload "score"
  let reasonCodes ← item (readArray readMember) payload "reason_codes"
  let contributions ← item (readArray scoreContributionFromJson) payload "contributions"
  let conflictPenaltyApplied ← itemOr readDecimal payload "conflict_penalty_applied" (.str "0")
  construct { policyVersion, score, reasonCodes, contributions, conflictPenaltyApplied }

/-! ## The candidate -/

def candidateIdentityToJson (i : CandidateIdentity) : Json :=
  .obj
    [("business_identity_id", .str i.val.businessIdentityId),
     ("policy_version", .str i.val.policyVersion),
     ("material_fingerprint", .str i.val.materialFingerprint),
     ("material_version", .int i.val.materialVersion),
     ("evidence_version", .int i.val.evidenceVersion),
     ("change_reason", ofMember i.val.changeReason),
     ("supersedes_material_version", ofOption .int i.val.supersedesMaterialVersion)]

def candidateIdentityFromJson (payload : Json) : Decoded CandidateIdentity := do
  let businessIdentityId ← item readText payload "business_identity_id"
  let policyVersion ← item readText payload "policy_version"
  let materialFingerprint ← item readText payload "material_fingerprint"
  let materialVersion ← item readInt payload "material_version"
  let evidenceVersion ← item readInt payload "evidence_version"
  let changeReason ← item readMember payload "change_reason"
  let supersedesMaterialVersion ← optionalItem readInt payload "supersedes_material_version"
  construct
    { businessIdentityId, policyVersion, materialFingerprint, materialVersion, evidenceVersion,
      changeReason, supersedesMaterialVersion }

section
variable [Sha256]

/-- `_candidate_to_json`. -/
def candidateToJson (c : IdeaCandidate) : Json :=
  .obj
    [("candidate_id", .str c.val.candidateId),
     ("identity", candidateIdentityToJson c.val.identity),
     ("family", ofMember c.val.family),
     ("lifecycle_status", ofMember c.val.lifecycleStatus),
     ("review_posture", ofMember c.val.reviewPosture),
     ("evidence_packet", evidencePacketToJson c.val.evidencePacket),
     ("source_signal_ids", ofTexts c.val.sourceSignalIds),
     ("score", ofOption scoreToJson c.val.score),
     ("access_scope", ofOption accessScopePayload c.val.accessScope),
     ("suppression_reason", ofOption ofMember c.val.suppressionReason),
     ("created_at_utc", ofTime c.val.createdAtUtc),
     ("updated_at_utc", ofTime c.val.updatedAtUtc)]

/-- `_candidate_from_json`. -/
def candidateFromJson (payload : Json) : Decoded IdeaCandidate := do
  let candidateId ← item readText payload "candidate_id"
  let identity ← item candidateIdentityFromJson payload "identity"
  let family ← item readMember payload "family"
  let lifecycleStatus ← item readMember payload "lifecycle_status"
  let reviewPosture ← item readMember payload "review_posture"
  let evidencePacket ← item evidencePacketFromJson payload "evidence_packet"
  let sourceSignalIds ← item (readArray readText) payload "source_signal_ids"
  let score ← optionalItem scoreFromJson payload "score"
  let accessScope ← optionalItem accessScopeFromJson payload "access_scope"
  let suppressionReason ← optionalItem readMember payload "suppression_reason"
  let createdAtUtc ← item readTime payload "created_at_utc"
  let updatedAtUtc ← item readTime payload "updated_at_utc"
  construct
    { candidateId, identity, family, lifecycleStatus, reviewPosture, evidencePacket,
      sourceSignalIds, score, accessScope, suppressionReason, createdAtUtc, updatedAtUtc }

end

/-! ## What is read of a source -/

@[simp] theorem accessScopeFromJson_payload (scope : ReviewAccessScope) :
    accessScopeFromJson (accessScopePayload scope) = .ok scope := by
  simpa [accessScopeFromJson, accessScopePayload, item] using construct_val scope

theorem causalInputRevisionFromPayload_payload (entry : CausalInputRevision) :
    causalInputRevisionFromPayload (.obj
      [("product_id", .str entry.val.productId),
       ("restatement_version", optionalText entry.val.restatementVersion),
       ("source_revision", .str entry.val.sourceRevision)]) = .ok entry := by
  have restatement : readOptional readText (optionalText entry.val.restatementVersion) =
      (.ok entry.val.restatementVersion : Decoded (Option String)) :=
    readOptional_text entry.val.restatementVersion
  simpa [causalInputRevisionFromPayload, item, optionalItem, restatement] using
    construct_val entry

@[simp] theorem optionalMapping_claims (claims : Option SourceRevisionClaims) :
    optionalMapping (sourceRevisionClaimsPayload claims) =
      .ok (some (sourceRevisionClaimsPayload claims)) := by
  cases claims <;> rfl

@[simp] theorem sourceRevisionClaimsFromPayload_payload (claims : Option SourceRevisionClaims) :
    sourceRevisionClaimsFromPayload (some (sourceRevisionClaimsPayload claims)) =
      .ok (claims.map SourceRevisionClaims.causalSorted) := by
  cases claims with
  | none =>
      simp [sourceRevisionClaimsPayload, sourceRevisionClaimsFromPayload, keys,
        SourceCutPosture.value]
  | some claims =>
      have text (value : Option String) : readOptional readText (optionalText value) =
          (.ok value : Decoded (Option String)) := readOptional_text value
      have posture : readMember (.str claims.val.reconciliationPosture.value) =
          (.ok claims.val.reconciliationPosture : Decoded SourceReconciliationPosture) :=
        readMember_ofMember claims.val.reconciliationPosture
      have causal := mapM_written
        (claims.val.causalInputRevisions.insertionSort fun a b =>
          a.val.productId ≤ b.val.productId) fun entry _ =>
        causalInputRevisionFromPayload_payload entry
      rw [List.mapM_map, List.map_id'] at causal
      have built := construct_val claims.causalSorted
      simp only [SourceRevisionClaims.causalSorted] at built
      simp [sourceRevisionClaimsPayload, sourceRevisionClaimsFromPayload,
        ownerClaimsFromPayload, optionalItem, itemOr, text, posture, causal, built]
      rfl

/-- The times of the reference are times of Python. -/
def SourceRef.Representable (r : SourceRef) : Prop :=
  DateTime.DayInRange r.val.asOfDate.days ∧ r.val.generatedAtUtc.InRange

instance (r : SourceRef) : Decidable r.Representable := inferInstanceAs (Decidable (_ ∧ _))

theorem sourceRefFromJson_payload {r : SourceRef} (representable : r.Representable) :
    sourceRefFromJson (sourceRefPayload r) = .ok r.causalSorted := by
  have day := readDay_ofDay (ε := PyError) representable.1
  have time := readTime_ofTime (ε := PyError) representable.2
  simpa [sourceRefFromJson, sourceRefPayload, item, day, time, SourceRef.causalSorted] using
    construct_val r.causalSorted

/-! ## What is read of a candidate -/

section Evidence

def LineageRef.causalSorted (l : LineageRef) : LineageRef where
  val := { l.val with sourceRefs := l.val.sourceRefs.map SourceRef.causalSorted }
  valid := by
    have passed := l.valid
    simpa [LineageRefFields.checks] using passed

def IdeaEvidencePacket.causalSorted (p : IdeaEvidencePacket) : IdeaEvidencePacket where
  val :=
    { p.val with
      sourceRefs := p.val.sourceRefs.map SourceRef.causalSorted
      lineageRef := p.val.lineageRef.causalSorted }
  valid := by
    have passed := p.valid
    have identities : (p.val.sourceRefs.map SourceRef.causalSorted).map SourceRef.identity =
        p.val.sourceRefs.map SourceRef.identity := by
      rw [List.map_map]
      rfl
    simpa [IdeaEvidencePacketFields.checks, IdeaEvidencePacketFields.expiryChecks,
      uniqueSourceChecks, identities] using passed

/-- The times of the packet are times of Python. -/
structure IdeaEvidencePacket.Representable (p : IdeaEvidencePacket) : Prop where
  sourceRefs : ∀ r ∈ p.val.sourceRefs, r.Representable
  lineageRefs : ∀ r ∈ p.val.lineageRef.val.sourceRefs, r.Representable
  createdAtUtc : p.val.createdAtUtc.InRange
  applicabilityExpiresAtUtc : ∀ t ∈ p.val.applicabilityExpiresAtUtc, t.InRange

theorem sourceRefs_read {sourceRefs : List SourceRef}
    (representable : ∀ r ∈ sourceRefs, r.Representable) :
    readArray sourceRefFromJson (.arr (sourceRefs.map sourceRefPayload)) =
      .ok (sourceRefs.map SourceRef.causalSorted) :=
  readArray_written sourceRefs fun r member => sourceRefFromJson_payload (representable r member)

theorem lineageRefFromJson_toJson {l : LineageRef}
    (representable : ∀ r ∈ l.val.sourceRefs, r.Representable) :
    lineageRefFromJson (lineageRefToJson l) = .ok l.causalSorted := by
  have sources := sourceRefs_read representable
  simpa [lineageRefFromJson, lineageRefToJson, item, sources, LineageRef.causalSorted] using
    construct_val l.causalSorted

@[simp] theorem optionalMapping_tolerance (tolerance : Option SourceCutTolerance) :
    optionalMapping (ofOption sourceCutTolerancePayload tolerance) =
      .ok (tolerance.map sourceCutTolerancePayload) := by
  cases tolerance <;> rfl

@[simp] theorem sourceCutToleranceFromPayload_payload (tolerance : Option SourceCutTolerance) :
    sourceCutToleranceFromPayload (tolerance.map sourceCutTolerancePayload) = .ok tolerance := by
  cases tolerance with
  | none => rfl
  | some tolerance =>
      have built := construct_val (ε := PyError) tolerance
      simp [sourceCutTolerancePayload, sourceCutToleranceFromPayload, item, built]

variable [Sha256]

@[simp] theorem IdeaEvidencePacket.sourceRevisionVectorDigest_causalSorted
    (p : IdeaEvidencePacket) :
    p.causalSorted.sourceRevisionVectorDigest = p.sourceRevisionVectorDigest :=
  LotusIdea.sourceRevisionVectorDigest_causalSorted p.val.sourceRefs

omit [Sha256] in
@[simp] theorem IdeaEvidencePacket.sourceCutPosture_causalSorted (p : IdeaEvidencePacket) :
    p.causalSorted.sourceCutPosture = p.sourceCutPosture :=
  LotusIdea.sourceCutPosture_causalSorted p.val.sourceRefs p.val.sourceCutTolerance

/-- The derived fields a packet is stored with are those of the packet read. -/
theorem verifyDerivedSourceRevisionFields_toJson (p : IdeaEvidencePacket) :
    verifyDerivedSourceRevisionFields (evidencePacketToJson p) p.causalSorted = .ok () := by
  have posture : (PyEnum.value p.sourceCutPosture : String) = p.sourceCutPosture.value := rfl
  simp [verifyDerivedSourceRevisionFields, evidencePacketToJson, optionalItem, readOptional,
    ofMember, Except.map, posture, pure, Except.pure]

theorem evidencePacketFromJson_toJson {p : IdeaEvidencePacket} (representable : p.Representable) :
    evidencePacketFromJson (evidencePacketToJson p) = .ok p.causalSorted := by
  have sources := sourceRefs_read representable.sourceRefs
  have lineage := lineageRefFromJson_toJson representable.lineageRefs
  have created := readTime_ofTime (ε := PyError) representable.createdAtUtc
  have expiry := readOptional_time (ε := PyError) representable.applicabilityExpiresAtUtc
  have built := construct_val (ε := PyError) p.causalSorted
  have verified := verifyDerivedSourceRevisionFields_toJson p
  simp only [IdeaEvidencePacket.causalSorted] at built
  simp only [evidencePacketToJson, IdeaEvidencePacket.causalSorted] at verified
  simp [evidencePacketFromJson, evidencePacketToJson, item, optionalItem, sources, lineage,
    created, expiry, built, verified]
  rfl

end Evidence

section Scores

/-- The numbers of the contribution are decimals. -/
structure ScoreContribution.Representable (c : ScoreContribution) : Prop where
  inputScore : PyDecimal.IsDecimal c.val.inputScore
  weight : PyDecimal.IsDecimal c.val.weight
  contribution : PyDecimal.IsDecimal c.val.contribution

structure IdeaScore.Representable (s : IdeaScore) : Prop where
  score : PyDecimal.IsDecimal s.val.score
  contributions : ∀ c ∈ s.val.contributions, c.Representable
  conflictPenaltyApplied : PyDecimal.IsDecimal s.val.conflictPenaltyApplied

theorem scoreContributionFromJson_toJson {c : ScoreContribution}
    (representable : c.Representable) :
    scoreContributionFromJson (scoreContributionToJson c) = .ok c := by
  have input := readDecimal_ofDecimal (ε := PyError) representable.inputScore
  have weight := readDecimal_ofDecimal (ε := PyError) representable.weight
  have contribution := readDecimal_ofDecimal (ε := PyError) representable.contribution
  simpa [scoreContributionFromJson, scoreContributionToJson, item, input, weight,
    contribution] using construct_val c

/-- The codec knows the policy that the score was made under. -/
def IdeaScore.PolicyKnown (s : IdeaScore) : Prop :=
  s.val.policyVersion ∈ defaultRankableScorePolicyVersions

instance (s : IdeaScore) : Decidable s.PolicyKnown := inferInstanceAs (Decidable (_ ∈ _))

theorem scoreFromJson_toJson {s : IdeaScore} (representable : s.Representable)
    (known : s.PolicyKnown) : scoreFromJson (scoreToJson s) = .ok s := by
  have score := readDecimal_ofDecimal (ε := PyError) representable.score
  have penalty := readDecimal_ofDecimal (ε := PyError) representable.conflictPenaltyApplied
  have contributions := readArray_back s.val.contributions fun c member =>
    scoreContributionFromJson_toJson (representable.contributions c member)
  have policy : candidateScorePolicyVersion s.val.policyVersion = .ok s.val.policyVersion :=
    if_pos known
  simpa [scoreFromJson, scoreToJson, item, itemOr, keys, score, penalty, contributions,
    policy] using construct_val s

theorem scoreFromJson_unknown {s : IdeaScore} (unknown : ¬ s.PolicyKnown) :
    scoreFromJson (scoreToJson s) = .error (.valueError
      (s.val.policyVersion ++ " is not a valid CandidateScorePolicyVersion")) := by
  have policy : candidateScorePolicyVersion s.val.policyVersion = .error (.valueError
      (s.val.policyVersion ++ " is not a valid CandidateScorePolicyVersion")) := if_neg unknown
  simp [scoreFromJson, scoreToJson, item, keys, policy, bind, Except.bind]

end Scores

section Candidate

@[simp] theorem candidateIdentityFromJson_toJson (i : CandidateIdentity) :
    candidateIdentityFromJson (candidateIdentityToJson i) = .ok i := by
  simpa [candidateIdentityFromJson, candidateIdentityToJson, item, optionalItem] using
    construct_val i

def IdeaCandidate.causalSorted (c : IdeaCandidate) : IdeaCandidate where
  val := { c.val with evidencePacket := c.val.evidencePacket.causalSorted }
  valid := by
    have passed := c.valid
    simpa [IdeaCandidateFields.checks] using passed

/-- The times and numbers of the candidate are values of Python. -/
structure IdeaCandidate.Representable (c : IdeaCandidate) : Prop where
  evidencePacket : c.val.evidencePacket.Representable
  score : ∀ s ∈ c.val.score, s.Representable
  createdAtUtc : c.val.createdAtUtc.InRange
  updatedAtUtc : c.val.updatedAtUtc.InRange

variable [Sha256]

/-- The candidate is read back, with the causal inputs of its sources sorted. -/
theorem candidateFromJson_toJson {c : IdeaCandidate} (representable : c.Representable)
    (known : ∀ s ∈ c.val.score, s.PolicyKnown) :
    candidateFromJson (candidateToJson c) = .ok c.causalSorted := by
  have packet := evidencePacketFromJson_toJson representable.evidencePacket
  have score : readOptional scoreFromJson (ofOption scoreToJson c.val.score) =
      .ok c.val.score :=
    readOptional_back _ (fun _ null => nomatch null) fun s member =>
      scoreFromJson_toJson (representable.score s member) (known s member)
  have scope : readOptional accessScopeFromJson (ofOption accessScopePayload c.val.accessScope) =
      .ok c.val.accessScope :=
    readOptional_back _ (fun _ null => nomatch null) fun scope _ =>
      accessScopeFromJson_payload scope
  have created := readTime_ofTime (ε := PyError) representable.createdAtUtc
  have updated := readTime_ofTime (ε := PyError) representable.updatedAtUtc
  simpa [candidateFromJson, candidateToJson, item, optionalItem, packet, score, scope, created,
    updated, IdeaCandidate.causalSorted] using construct_val c.causalSorted

/-- A candidate scored under another policy is not read back. -/
theorem candidateFromJson_unknown {c : IdeaCandidate} (representable : c.Representable)
    {s : IdeaScore} (scored : c.val.score = some s) (unknown : ¬ s.PolicyKnown) :
    candidateFromJson (candidateToJson c) = .error (.valueError
      (s.val.policyVersion ++ " is not a valid CandidateScorePolicyVersion")) := by
  have packet := evidencePacketFromJson_toJson representable.evidencePacket
  have refused := scoreFromJson_unknown unknown
  have score : readOptional scoreFromJson (ofOption scoreToJson c.val.score) = .error (.valueError
      (s.val.policyVersion ++ " is not a valid CandidateScorePolicyVersion")) := by
    rw [scored]
    obtain ⟨fields, shape⟩ : ∃ fields, scoreToJson s = .obj fields := ⟨_, rfl⟩
    simp only [ofOption, Option.elim_some]
    rw [shape] at refused ⊢
    simp [readOptional, refused, Except.map]
  simp [candidateFromJson, candidateToJson, item, optionalItem, packet, score]

end Candidate
end LotusIdea

import LotusIdea.Postgres.LegacyAuthority
import LotusIdea.Repository.RevokedAuthority

/-!
# Older payloads whose authority is active

For every set of tolerated gaps there is a decision, a grant and an intent with
exactly these gaps whose authority some candidate matches.  So the gaps that fail
closed are the others.
-/

set_option autoImplicit false

namespace LotusIdea

open Json

/-! ## The candidate and its decision -/

def legacyPacket : IdeaEvidencePacket where
  val := { sampleEvidencePacket.val with evidencePacketId := "None" }
  valid := by decide +kernel

/-- A candidate whose names are the text of a null. -/
def legacyCandidate : IdeaCandidate where
  val := { (sampleCandidate false).val with candidateId := "None", evidencePacket := legacyPacket }
  valid := by decide +kernel

theorem legacyCandidate_authoritative :
    sourceCutIsAuthoritative legacyCandidate.val.evidencePacket.sourceCutPosture = true := by
  decide +kernel

section Legacy
variable [Sha256]

def legacyGrant (workbench : Bool) {role policy : String}
    (told : PyText.isBlank role = false ∧ PyText.isBlank policy = false) :
    ReviewAuthorityGrant where
  val :=
    { reviewId := "None"
      candidateEvidence := CandidateEvidenceIdentity.fromCandidate legacyCandidate
      reviewChannel := if workbench then .workbench else .operator
      actorSubject := "None"
      actorRole := role
      reviewPolicyVersion := policy
      acceptedAtUtc := .utc 0
      applicabilityExpiresAtUtc := none
      presentationReceiptId := if workbench then some "receipt-1" else none
      queueSnapshotDigest := if workbench then some "digest-1" else none }
  valid := by
    have shown : PyText.isBlank "None" = false := by decide
    have receipt : PyText.isBlank "receipt-1" = false := by decide
    have digest : PyText.isBlank "digest-1" = false := by decide
    have policy : PyText.isBlank reviewAuthorityPolicyVersion = false := by decide
    have utc : (DateTime.utc 0).isUtc = true := by decide
    cases workbench <;>
      simp [ReviewAuthorityGrantFields.checks, ReviewAuthorityGrantFields.presentationChecks,
        requireUtc, told, shown, receipt, digest, policy, utc]

theorem legacyGrant_active (workbench : Bool) {role policy : String}
    (told : PyText.isBlank role = false ∧ PyText.isBlank policy = false) :
    (legacyGrant workbench told).ActiveSometime := by
  refine ⟨legacyCandidate, .utc 1, ?_⟩
  have ready : legacyCandidate.val.evidencePacket.val.supportability = .ready := rfl
  have status : (legacyGrant workbench told).statusAt legacyCandidate (.utc 1) = .active := by
    simp [ReviewAuthorityGrant.statusAt, legacyGrant, legacyCandidate_authoritative, ready]
  simp only [ReviewAuthorityGrant.effectiveStatus, status]
  rfl

theorem legacyGrant_representable (workbench : Bool) {role policy : String}
    (told : PyText.isBlank role = false ∧ PyText.isBlank policy = false) :
    (legacyGrant workbench told).Representable where
  acceptedAtUtc := by
    change (DateTime.utc 0).InRange
    decide
  applicabilityExpiresAtUtc := nofun

def legacyDecision (workbench : Bool) {policy : String} (told : PyText.isBlank policy = false) :
    GovernedReviewDecision where
  val :=
    { reviewId := "None"
      candidateId := "None"
      evidencePacketId := "None"
      evidenceContentHash := sampleDigest 'c'
      sourceRevisionVectorDigest := legacyCandidate.val.evidencePacket.sourceRevisionVectorDigest
      sourceCutPosture := legacyCandidate.val.evidencePacket.sourceCutPosture
      candidateMaterialVersion := 1
      candidateEvidenceVersion := 1
      reviewChannel := if workbench then .workbench else .operator
      presentationReceiptId := if workbench then some "receipt-1" else none
      queueSnapshotDigest := if workbench then some "digest-1" else none
      reviewPolicyVersion := policy
      action := .approveForConversion
      resultingPosture := .approvedForConversion
      actorSubject := "None"
      actorRole := .operator
      reasonCodes := [.highCashRatio]
      decidedAtUtc := .utc 0
      acceptedAtUtc := .utc 0 }
  valid := by
    have shown : PyText.isBlank "None" = false := by decide
    have authority : PyText.isBlank reviewAuthorityPolicyVersion = false := by decide
    have aware : (DateTime.utc 0).isNaive = false := by decide
    have hash : PyText.isBlank (sampleDigest 'c') = false := by decide +kernel
    have evidence := (CandidateEvidenceIdentity.fromCandidate legacyCandidate).valid
    have vector : PyText.isBlank
        legacyCandidate.val.evidencePacket.sourceRevisionVectorDigest = false :=
      sourceRevisionVectorDigest_not_blank _
    simp only [GovernedReviewDecisionFields.checks, firstFailure_append]
    refine ⟨⟨⟨⟨⟨⟨?_, evidence⟩, ?_⟩, ?_⟩, ?_⟩, ?_⟩, ?_⟩
    · simp [GovernedReviewDecisionFields.entryChecks, shown, hash, vector, aware]
    · simp [told, authority]
    · rfl
    · cases workbench <;> simp [GovernedReviewDecisionFields.presentationChecks]
    · simp
    · rfl

omit [Sha256] in
theorem operator_told {policy : String} (told : PyText.isBlank policy = false) :
    PyText.isBlank ReviewActorRole.operator.value = false ∧ PyText.isBlank policy = false :=
  ⟨by decide, told⟩

theorem legacyDecision_grant (workbench : Bool) {policy : String}
    (told : PyText.isBlank policy = false) :
    (legacyDecision workbench told).authorityGrant =
      .ok (some (legacyGrant workbench (operator_told told))) := by
  have approves : ¬ ((legacyDecision workbench told).val.action ≠ .approveForConversion ∨
      (legacyDecision workbench told).val.reviewChannel = .legacyUnverified) := by
    cases workbench <;> simp [legacyDecision]
  unfold GovernedReviewDecision.authorityGrant
  rw [if_neg approves]
  have made := Checked.make_of_valid (legacyGrant workbench (operator_told told)).valid
  exact congrArg (Except.map some) made

theorem legacyDecision_representable (workbench : Bool) {policy : String}
    (told : PyText.isBlank policy = false) : (legacyDecision workbench told).Representable where
  applicabilityExpiresAtUtc := nofun
  decidedAtUtc := by
    change (DateTime.utc 0).InRange
    decide
  acceptedAtUtc := by
    change (DateTime.utc 0).InRange
    decide
  snoozedUntilUtc := nofun

/-! ### Taking the binding fields out -/

/-- The gaps of the object that stands behind `front`; what binds nothing is kept. -/
def keptGaps (front : List String) (paths : List (List String)) (gaps : List String → Gap)
    (key : String) : Gap :=
  if front ++ [key] ∈ paths then gaps (front ++ [key]) else .present

section Kept
variable {kind : StoredAuthority} {front : List String} {paths : List (List String)}
  {gaps : List String → Gap} {key : String}

omit [Sha256] in
theorem keptGaps_not_missing
    (tolerated : ∀ path ∈ paths, kind.tolerates path (gaps path) = true)
    (required : kind.defaultedPaths.contains (front ++ [key]) = false) :
    keptGaps front paths gaps key ≠ .missing := by
  unfold keptGaps
  by_cases binds : front ++ [key] ∈ paths
  · rw [if_pos binds]
    intro gap
    have kept := tolerated _ binds
    rw [gap] at kept
    cases kept.symm.trans required
  · simp [binds]

omit [Sha256] in
theorem keptGaps_not_null
    (tolerated : ∀ path ∈ paths, kind.tolerates path (gaps path) = true)
    (unspelled : kind.spelledPaths.contains (front ++ [key]) = false) :
    keptGaps front paths gaps key ≠ .null := by
  unfold keptGaps
  by_cases binds : front ++ [key] ∈ paths
  · rw [if_pos binds]
    intro gap
    have kept := tolerated _ binds
    rw [gap] at kept
    cases kept.symm.trans unspelled
  · simp [binds]

omit [Sha256] in
theorem keptGaps_present
    (tolerated : ∀ path ∈ paths, kind.tolerates path (gaps path) = true)
    (hard : kind.defaultedPaths.contains (front ++ [key]) = false ∧
      kind.spelledPaths.contains (front ++ [key]) = false) : keptGaps front paths gaps key = .present := by
  have notMissing := keptGaps_not_missing tolerated hard.1
  have notNull := keptGaps_not_null tolerated hard.2
  cases gap : keptGaps front paths gaps key with
  | missing => exact absurd gap notMissing
  | null => exact absurd gap notNull
  | present => rfl

end Kept

/-- What the decoder reads for the review policy. -/
def policyText (gaps : List String → Gap) : String :=
  if keptGaps [] (decisionPaths false) gaps "review_policy_version" = .missing then "legacy-unverified"
  else "None"

omit [Sha256] in
theorem policyText_told (gaps : List String → Gap) : PyText.isBlank (policyText gaps) = false := by
  unfold policyText
  split <;> decide

def decisionFields (workbench : Bool) (gaps : List String → Gap) : List (String × Json) :=
  (reviewDecisionToJson (legacyDecision workbench (policyText_told gaps))).objectFields

def decisionPayload (workbench : Bool) (gaps : List String → Gap) : Json :=
  .obj (thin (keptGaps [] (decisionPaths workbench) gaps) (decisionFields workbench gaps))

theorem decisionPayload_decodes {workbench : Bool} {gaps : List String → Gap}
    (tolerated : ∀ path ∈ decisionPaths workbench,
      StoredAuthority.tolerates .reviewDecision path (gaps path) = true) :
    reviewDecisionFromJson (decisionPayload workbench gaps) =
      .ok (legacyDecision workbench (policyText_told gaps)) := by
  have full : reviewDecisionFromJson (.obj (decisionFields workbench gaps)) = _ :=
    reviewDecisionFromJson_toJson (legacyDecision_representable workbench (policyText_told gaps))
  have text (key : String)
      (defaulted : StoredAuthority.reviewDecision.defaultedPaths.contains [key] = false)
      (found : field? (decisionFields workbench gaps) key = some (.str "None")) :
      (item readText (decisionPayload workbench gaps) key : Decoded String) =
        item readText (.obj (decisionFields workbench gaps)) key :=
    item_thin found (keptGaps_not_missing tolerated defaulted) rfl
  have version (key : String)
      (unspelled : StoredAuthority.reviewDecision.spelledPaths.contains [key] = false)
      (found : field? (decisionFields workbench gaps) key = some (.int 1)) :
      (itemOr readInt (decisionPayload workbench gaps) key (.int 1) : Decoded Int) =
        itemOr readInt (.obj (decisionFields workbench gaps)) key (.int 1) :=
    itemOr_thin found (fun _ => rfl) fun null =>
      absurd null (keptGaps_not_null tolerated unspelled)
  have policy : (itemOr readText (decisionPayload workbench gaps) "review_policy_version"
      (.str "legacy-unverified") : Decoded String) =
        itemOr readText (.obj (decisionFields workbench gaps)) "review_policy_version"
          (.str "legacy-unverified") := by
    have found : field? (decisionFields workbench gaps) "review_policy_version" =
        some (.str (policyText gaps)) := rfl
    have read (gap : Gap) : keptGaps [] (decisionPaths workbench) gaps "review_policy_version" = gap →
        policyText gaps = if gap = .missing then "legacy-unverified" else "None" := by
      intro same
      have kept : keptGaps [] (decisionPaths false) gaps "review_policy_version" =
          keptGaps [] (decisionPaths workbench) gaps "review_policy_version" := by
        cases workbench <;> rfl
      rw [policyText, kept, same]
    refine itemOr_thin found ?_ ?_
    · intro missing
      rw [read _ missing]
      rfl
    · intro null
      rw [read _ null]
      rfl
  have reviewId := text "review_id" (by decide) rfl
  have candidateId := text "candidate_id" (by decide) rfl
  have packetId := text "evidence_packet_id" (by decide) rfl
  have subject := text "actor_subject" (by decide) rfl
  have material := version "candidate_material_version" (by decide) rfl
  have evidence := version "candidate_evidence_version" (by decide) rfl
  rw [← full]
  simp only [reviewDecisionFromJson, reviewId, candidateId, packetId, subject, material, evidence,
    policy]
  simp (disch := exact keptGaps_present tolerated (by decide)) only [decisionPayload,
    item_thin_present, itemOr_thin_present, optionalItem_thin_present]

omit [Sha256] in
/-- A field that is written has the gap that it is given. -/
theorem gapAt_kept {front : List String} {paths : List (List String)} {gaps : List String → Gap}
    {fields : List (String × Json)} {key : String} {value : Json} (binds : front ++ [key] ∈ paths)
    (found : field? fields key = some value) (shown : value ≠ .null) :
    gapAt (.obj (thin (keptGaps front paths gaps) fields)) [key] = gaps (front ++ [key]) := by
  rw [gapAt_thin found shown, keptGaps, if_pos binds]

theorem decisionFields_bound (workbench : Bool) (gaps : List String → Gap) :
    ∀ path ∈ decisionPaths workbench, ∃ key value, path = [key] ∧
      field? (decisionFields workbench gaps) key = some value ∧ value ≠ .null := by
  intro path listed
  cases workbench with
  | false =>
      simp only [decisionPaths, presentationPaths, List.mem_append, List.mem_cons,
        List.not_mem_nil, or_false, Bool.false_eq_true, if_false] at listed
      rcases listed with rfl | rfl | rfl | rfl | rfl | rfl | rfl | rfl | rfl | rfl | rfl | rfl |
        rfl | rfl | rfl | rfl <;> exact ⟨_, _, rfl, rfl, ne_null_of_gapAt rfl⟩
  | true =>
      simp only [decisionPaths, presentationPaths, List.mem_append, List.mem_cons,
        List.not_mem_nil, or_false, if_true] at listed
      rcases listed with (rfl | rfl | rfl | rfl | rfl | rfl | rfl | rfl | rfl | rfl | rfl | rfl |
        rfl | rfl | rfl | rfl) | rfl | rfl <;> exact ⟨_, _, rfl, rfl, ne_null_of_gapAt rfl⟩

omit [Sha256] in
theorem workbench_told (workbench : Bool) :
    some (PyEnum.value (if workbench then ReviewChannel.workbench else .operator)) =
      some "workbench" ↔ workbench = true := by
  cases workbench <;> decide

theorem decisionPayload_gaps {workbench : Bool} {gaps : List String → Gap}
    (tolerated : ∀ path ∈ decisionPaths workbench,
      StoredAuthority.tolerates .reviewDecision path (gaps path) = true) :
    StoredAuthority.HasGaps .reviewDecision workbench gaps (decisionPayload workbench gaps) := by
  constructor
  · have kept : keptGaps [] (decisionPaths workbench) gaps "review_channel" = .present :=
      keptGaps_present tolerated (by decide)
    have channel : textAt (decisionPayload workbench gaps) ["review_channel"] =
        some (PyEnum.value (if workbench then ReviewChannel.workbench else .operator)) := by
      simp only [decisionPayload, textAt, field?_thin, kept]
      rfl
    simp only [StoredAuthority.channelPath, channel]
    exact workbench_told workbench
  · intro path listed
    obtain ⟨key, value, rfl, found, shown⟩ := decisionFields_bound workbench gaps path listed
    exact gapAt_kept listed found shown

/-! ### A grant -/

omit [Sha256] in
theorem none_told : PyText.isBlank "None" = false ∧ PyText.isBlank "None" = false := by decide

def evidenceFields : List (String × Json) :=
  (candidateEvidenceToJson (CandidateEvidenceIdentity.fromCandidate legacyCandidate)).objectFields

def evidencePayload (workbench : Bool) (gaps : List String → Gap) : Json :=
  .obj (thin (keptGaps ["candidate_evidence"] (grantPaths workbench) gaps) evidenceFields)

def grantFields (workbench : Bool) : List (String × Json) :=
  (reviewAuthorityGrantToJson (legacyGrant workbench none_told)).objectFields

def grantPayload (workbench : Bool) (gaps : List String → Gap) : Json :=
  .obj (thin (keptGaps [] (grantPaths workbench) gaps)
    (replaceField "candidate_evidence" (evidencePayload workbench gaps) (grantFields workbench)))

section Grant
variable {workbench : Bool} {gaps : List String → Gap}
  (tolerated : ∀ path ∈ grantPaths workbench,
    StoredAuthority.tolerates .authorityGrant path (gaps path) = true)
include tolerated

theorem evidencePayload_decodes :
    candidateEvidenceFromJson (evidencePayload workbench gaps) =
      .ok (CandidateEvidenceIdentity.fromCandidate legacyCandidate) := by
  have full : candidateEvidenceFromJson (.obj evidenceFields) = _ :=
    candidateEvidenceFromJson_toJson (CandidateEvidenceIdentity.fromCandidate legacyCandidate)
  have text (key : String) (found : field? evidenceFields key = some (.str "None")) :
      (item readText (evidencePayload workbench gaps) key : Decoded String) =
        item readText (.obj evidenceFields) key :=
    item_thin found (keptGaps_not_missing tolerated rfl) rfl
  have candidateId := text "candidate_id" rfl
  have packetId := text "evidence_packet_id" rfl
  rw [← full]
  simp only [candidateEvidenceFromJson, candidateId, packetId]
  simp (disch := exact keptGaps_present tolerated (by decide)) only [evidencePayload,
    item_thin_present, itemOr_thin_present]

theorem grantPayload_decodes :
    reviewAuthorityGrantFromJson (grantPayload workbench gaps) =
      .ok (legacyGrant workbench none_told) := by
  have full : reviewAuthorityGrantFromJson (.obj (grantFields workbench)) = _ :=
    reviewAuthorityGrantFromJson_toJson (legacyGrant_representable workbench none_told)
  have kept : keptGaps [] (grantPaths workbench) gaps "candidate_evidence" = .present :=
    keptGaps_present tolerated (by decide)
  have evidence : item candidateEvidenceFromJson (grantPayload workbench gaps)
      "candidate_evidence" = .ok (CandidateEvidenceIdentity.fromCandidate legacyCandidate) := by
    rw [grantPayload, item_thin_present kept, item_obj (field?_replaceField rfl),
      evidencePayload_decodes tolerated]
  have whole : item candidateEvidenceFromJson (.obj (grantFields workbench))
      "candidate_evidence" = .ok (CandidateEvidenceIdentity.fromCandidate legacyCandidate) := by
    have found : field? (grantFields workbench) "candidate_evidence" =
        some (candidateEvidenceToJson
          (CandidateEvidenceIdentity.fromCandidate legacyCandidate)) := rfl
    rw [item_obj found, candidateEvidenceFromJson_toJson]
  have text (key : String) (apart : key ≠ "candidate_evidence")
      (found : field? (grantFields workbench) key = some (.str "None")) :
      (item readText (grantPayload workbench gaps) key : Decoded String) =
        item readText (.obj (grantFields workbench)) key := by
    rw [grantPayload, item_thin ((field?_replaceField_of_ne apart).trans found)
      (keptGaps_not_missing tolerated rfl) rfl, item_replaceField_of_ne apart]
  have reviewId := text "review_id" (by decide) rfl
  have subject := text "actor_subject" (by decide) rfl
  have role := text "actor_role" (by decide) rfl
  have policy := text "review_policy_version" (by decide) rfl
  rw [← full]
  simp only [reviewAuthorityGrantFromJson, reviewId, subject, role, policy, evidence, whole]
  simp (disch := first | exact keptGaps_present tolerated (by decide) | decide) only [grantPayload,
    item_thin_present, itemOr_thin_present, optionalItem_thin_present, item_replaceField_of_ne,
    itemOr_replaceField_of_ne, optionalItem_replaceField_of_ne]

omit tolerated in
theorem grantFields_bound :
    ∀ path ∈ grantPaths workbench,
      (∃ key value, path = [key] ∧ key ≠ "candidate_evidence" ∧
        field? (grantFields workbench) key = some value ∧ value ≠ .null) ∨
      ∃ key value, path = ["candidate_evidence", key] ∧
        field? evidenceFields key = some value ∧ value ≠ .null := by
  intro path listed
  cases workbench with
  | false =>
      simp only [grantPaths, presentationPaths, List.mem_append, List.mem_cons,
        List.not_mem_nil, or_false, Bool.false_eq_true, if_false] at listed
      rcases listed with rfl | rfl | rfl | rfl | rfl | rfl | rfl | rfl | rfl | rfl | rfl | rfl |
        rfl | rfl | rfl | rfl <;>
      first
        | exact Or.inl ⟨_, _, rfl, by decide, rfl, ne_null_of_gapAt rfl⟩
        | exact Or.inr ⟨_, _, rfl, rfl, ne_null_of_gapAt rfl⟩
  | true =>
      simp only [grantPaths, presentationPaths, List.mem_append, List.mem_cons,
        List.not_mem_nil, or_false, if_true] at listed
      rcases listed with (rfl | rfl | rfl | rfl | rfl | rfl | rfl | rfl | rfl | rfl | rfl | rfl |
        rfl | rfl | rfl | rfl) | rfl | rfl <;>
      first
        | exact Or.inl ⟨_, _, rfl, by decide, rfl, ne_null_of_gapAt rfl⟩
        | exact Or.inr ⟨_, _, rfl, rfl, ne_null_of_gapAt rfl⟩

theorem grantPayload_gaps :
    StoredAuthority.HasGaps .authorityGrant workbench gaps (grantPayload workbench gaps) := by
  constructor
  · have kept : keptGaps [] (grantPaths workbench) gaps "review_channel" = .present :=
      keptGaps_present tolerated (by decide)
    have apart : "review_channel" ≠ "candidate_evidence" := by decide
    have channel : textAt (grantPayload workbench gaps) ["review_channel"] =
        some (PyEnum.value (if workbench then ReviewChannel.workbench else .operator)) := by
      simp only [grantPayload, textAt, field?_thin, kept, field?_replaceField_of_ne apart]
      rfl
    simp only [StoredAuthority.channelPath, channel]
    exact workbench_told workbench
  · intro path listed
    rcases grantFields_bound path listed with
      ⟨key, value, rfl, apart, found, shown⟩ | ⟨key, value, rfl, found, shown⟩
    · exact gapAt_kept listed ((field?_replaceField_of_ne apart).trans found) shown
    · have kept : keptGaps [] (grantPaths workbench) gaps "candidate_evidence" = .present :=
        keptGaps_present tolerated (by decide)
      have nested : field? (thin (keptGaps [] (grantPaths workbench) gaps)
          (replaceField "candidate_evidence" (evidencePayload workbench gaps)
            (grantFields workbench))) "candidate_evidence" =
          some (evidencePayload workbench gaps) := by
        rw [field?_thin, kept]
        exact field?_replaceField rfl
      rw [grantPayload, gapAt_field nested]
      exact gapAt_kept listed found shown

end Grant

/-! ### An intent -/

def legacyIntentRequest : IdeaConversionIntent where
  val :=
    { conversionIntentId := "intent-1", candidateId := "None", target := .reportEvidence
      sourceStatus := .approved, requestedAtUtc := .utc 0 }
  valid := by decide

def legacyIntent (workbench : Bool) : GovernedConversionIntent where
  val :=
    { intent := legacyIntentRequest
      evidencePacketId := "None"
      evidenceContentHash := sampleDigest 'c'
      sourceRevisionVectorDigest := legacyCandidate.val.evidencePacket.sourceRevisionVectorDigest
      sourceCutPosture := legacyCandidate.val.evidencePacket.sourceCutPosture
      sourceSignalIds := ["signal-1"]
      actorSubject := "advisor-1"
      idempotencyKey := "intent-key-1"
      reasonCodes := [.highCashRatio]
      targetSourceAuthority := .lotusReport
      acceptedAtUtc := .utc 0
      reviewAuthorityGrant := some (legacyGrant workbench none_told) }
  valid := by
    have shown : PyText.isBlank "None" = false := by decide
    have actor : PyText.isBlank "advisor-1" = false := by decide
    have key : PyText.isBlank "intent-key-1" = false := by decide
    have aware : (DateTime.utc 0).isNaive = false := by decide
    have hash : PyText.isBlank (sampleDigest 'c') = false := by decide +kernel
    have vector : PyText.isBlank
        legacyCandidate.val.evidencePacket.sourceRevisionVectorDigest = false :=
      sourceRevisionVectorDigest_not_blank _
    simp only [GovernedConversionIntentFields.checks, firstFailure_append]
    refine ⟨?_, ?_⟩
    · simp [shown, actor, key, aware, hash, vector]
    · have evidence : (legacyGrant workbench none_told).val.candidateEvidence =
          CandidateEvidenceIdentity.fromCandidate legacyCandidate := rfl
      have accepted : (legacyGrant workbench none_told).val.acceptedAtUtc = .utc 0 := rfl
      simp only [Option.elim_some, GovernedConversionIntentFields.grantChecks, evidence, accepted,
        firstFailure_cons, firstFailure_nil, bne_eq_false_iff_eq, Bool.or_eq_false_iff, and_true]
      exact ⟨rfl, rfl, rfl, ⟨rfl, rfl⟩, by decide⟩

theorem legacyIntent_representable (workbench : Bool) :
    (legacyIntent workbench).Representable where
  requestedAtUtc := by
    change (DateTime.utc 0).InRange
    decide
  acceptedAtUtc := by
    change (DateTime.utc 0).InRange
    decide
  reviewAuthorityGrant := by
    intro g held
    cases held
    exact legacyGrant_representable workbench none_told

/-- The gaps of the grant in an intent. -/
def grantGaps (gaps : List String → Gap) (path : List String) : Gap :=
  gaps ("review_authority_grant" :: path)

def requestFields : List (String × Json) :=
  [("conversion_intent_id", .str "intent-1"), ("candidate_id", .str "None"),
   ("target", ofMember ConversionTarget.reportEvidence),
   ("source_status", ofMember IdeaLifecycleStatus.approved), ("requested_at_utc", ofTime (.utc 0))]

def requestPayload (workbench : Bool) (gaps : List String → Gap) : Json :=
  .obj (thin (keptGaps ["intent"] (intentPaths workbench) gaps) requestFields)

def intentFields (workbench : Bool) : List (String × Json) :=
  (conversionIntentToJson (legacyIntent workbench)).objectFields

def intentPayload (workbench : Bool) (gaps : List String → Gap) : Json :=
  .obj (thin (keptGaps [] (intentPaths workbench) gaps)
    (replaceField "intent" (requestPayload workbench gaps)
      (replaceField "review_authority_grant" (grantPayload workbench (grantGaps gaps))
        (intentFields workbench))))

section Intent
variable {workbench : Bool} {gaps : List String → Gap}
  (tolerated : ∀ path ∈ intentPaths workbench,
    StoredAuthority.tolerates .conversionIntent path (gaps path) = true)
include tolerated

omit [Sha256] in
theorem grantGaps_tolerated : ∀ path ∈ grantPaths workbench,
    StoredAuthority.tolerates .authorityGrant path (grantGaps gaps path) = true := by
  intro path listed
  have kept := tolerated _ (List.mem_append_right _ (List.mem_map_of_mem listed))
  simp only [grantGaps]
  cases gap : gaps ("review_authority_grant" :: path) with
  | missing =>
      rw [gap] at kept
      cases kept
  | null =>
      rw [gap] at kept
      simpa [StoredAuthority.tolerates, StoredAuthority.spelledPaths] using kept
  | present => rfl

omit tolerated [Sha256] in
theorem requestFields_decode :
    ideaConversionIntentFromJson (.obj requestFields) = .ok legacyIntentRequest := by
  have requested : (readTime (ofTime (.utc 0)) : Decoded DateTime) = .ok (.utc 0) :=
    readTime_ofTime (by decide)
  simp [ideaConversionIntentFromJson, requestFields, item, requested]
  exact construct_val legacyIntentRequest

omit [Sha256] in
theorem requestPayload_decodes :
    ideaConversionIntentFromJson (requestPayload workbench gaps) = .ok legacyIntentRequest := by
  have candidateId : (item readText (requestPayload workbench gaps) "candidate_id" :
      Decoded String) = item readText (.obj requestFields) "candidate_id" :=
    item_thin rfl (keptGaps_not_missing tolerated rfl) rfl
  rw [← requestFields_decode]
  simp only [ideaConversionIntentFromJson, candidateId]
  simp (disch := exact keptGaps_present tolerated (by decide)) only [requestPayload,
    item_thin_present]

theorem intentPayload_decodes :
    conversionIntentFromJson (intentPayload workbench gaps) = .ok (legacyIntent workbench) := by
  have full : conversionIntentFromJson (.obj (intentFields workbench)) = _ :=
    conversionIntentFromJson_toJson (legacyIntent_representable workbench)
  have keptIntent : keptGaps [] (intentPaths workbench) gaps "intent" = .present :=
    keptGaps_present tolerated (by decide)
  have keptGrant : keptGaps [] (intentPaths workbench) gaps "review_authority_grant" = .present :=
    keptGaps_present tolerated (by decide)
  have intent : item ideaConversionIntentFromJson (intentPayload workbench gaps) "intent" =
      .ok legacyIntentRequest := by
    rw [intentPayload, item_thin_present keptIntent, item_obj (field?_replaceField rfl),
      requestPayload_decodes tolerated]
  have wholeIntent : item ideaConversionIntentFromJson (.obj (intentFields workbench)) "intent" =
      .ok legacyIntentRequest := by
    have found : field? (intentFields workbench) "intent" = some (.obj requestFields) := rfl
    rw [item_obj found, requestFields_decode]
  have grantFound : field? (replaceField "intent" (requestPayload workbench gaps)
      (replaceField "review_authority_grant" (grantPayload workbench (grantGaps gaps))
        (intentFields workbench))) "review_authority_grant" =
      some (grantPayload workbench (grantGaps gaps)) := by
    rw [field?_replaceField_of_ne (by decide)]
    exact field?_replaceField rfl
  have grant : optionalItem reviewAuthorityGrantFromJson (intentPayload workbench gaps)
      "review_authority_grant" = .ok (some (legacyGrant workbench none_told)) := by
    rw [intentPayload, optionalItem_thin_present keptGrant, optionalItem_obj grantFound]
    have decoded := grantPayload_decodes (grantGaps_tolerated tolerated)
    rw [grantPayload] at decoded ⊢
    simp only [readOptional, decoded]
    rfl
  have wholeGrant : optionalItem reviewAuthorityGrantFromJson (.obj (intentFields workbench))
      "review_authority_grant" = .ok (some (legacyGrant workbench none_told)) := by
    have found : field? (intentFields workbench) "review_authority_grant" =
        some (reviewAuthorityGrantToJson (legacyGrant workbench none_told)) := rfl
    have decoded := reviewAuthorityGrantFromJson_toJson
      (legacyGrant_representable workbench none_told)
    rw [optionalItem_obj found]
    rw [reviewAuthorityGrantToJson] at decoded ⊢
    simp only [readOptional, decoded]
    rfl
  have packetId : (item readText (intentPayload workbench gaps) "evidence_packet_id" :
      Decoded String) = item readText (.obj (intentFields workbench)) "evidence_packet_id" := by
    have found : field? (replaceField "intent" (requestPayload workbench gaps)
        (replaceField "review_authority_grant" (grantPayload workbench (grantGaps gaps))
          (intentFields workbench))) "evidence_packet_id" = some (.str "None") := by
      rw [field?_replaceField_of_ne (by decide), field?_replaceField_of_ne (by decide)]
      rfl
    rw [intentPayload, item_thin found (keptGaps_not_missing tolerated rfl) rfl,
      item_replaceField_of_ne (by decide), item_replaceField_of_ne (by decide)]
  rw [← full]
  simp only [conversionIntentFromJson, intent, wholeIntent, grant, wholeGrant, packetId]
  simp (disch := first | exact keptGaps_present tolerated (by decide) | decide) only [intentPayload,
    item_thin_present, itemOr_thin_present, item_replaceField_of_ne, itemOr_replaceField_of_ne]

theorem intentPayload_gaps :
    StoredAuthority.HasGaps .conversionIntent workbench gaps (intentPayload workbench gaps) := by
  have grantTolerated := grantGaps_tolerated tolerated
  obtain ⟨channel, grantGapsHeld⟩ := grantPayload_gaps grantTolerated
  have keptIntent : keptGaps [] (intentPaths workbench) gaps "intent" = .present :=
    keptGaps_present tolerated (by decide)
  have keptGrant : keptGaps [] (intentPaths workbench) gaps "review_authority_grant" = .present :=
    keptGaps_present tolerated (by decide)
  have grantFound : field? (thin (keptGaps [] (intentPaths workbench) gaps)
      (replaceField "intent" (requestPayload workbench gaps)
        (replaceField "review_authority_grant" (grantPayload workbench (grantGaps gaps))
          (intentFields workbench)))) "review_authority_grant" =
      some (grantPayload workbench (grantGaps gaps)) := by
    simp only [field?_thin, keptGrant]
    rw [field?_replaceField_of_ne (by decide)]
    exact field?_replaceField rfl
  have intentFound : field? (thin (keptGaps [] (intentPaths workbench) gaps)
      (replaceField "intent" (requestPayload workbench gaps)
        (replaceField "review_authority_grant" (grantPayload workbench (grantGaps gaps))
          (intentFields workbench)))) "intent" = some (requestPayload workbench gaps) := by
    simp only [field?_thin, keptIntent]
    refine field?_replaceField ?_
    rw [field?_replaceField_of_ne (by decide)]
    rfl
  have evidence (key : String) (value : Json) (binds : [key] ∈ intentPaths workbench)
      (apart : key ≠ "intent" ∧ key ≠ "review_authority_grant")
      (found : field? (intentFields workbench) key = some value) (shown : value ≠ .null) :
      gapAt (intentPayload workbench gaps) [key] = gaps [key] := by
    refine gapAt_kept binds ?_ shown
    rw [field?_replaceField_of_ne apart.1, field?_replaceField_of_ne apart.2, found]
  constructor
  · rw [← channel]
    simp only [StoredAuthority.channelPath, intentPayload, textAt, grantFound, Option.bind_some]
  · intro path listed
    rcases List.mem_append.mp listed with own | ofGrant
    · simp only [List.mem_cons, List.not_mem_nil, or_false] at own
      rcases own with rfl | rfl | rfl | rfl | rfl
      · rw [intentPayload, gapAt_field intentFound]
        exact gapAt_kept listed rfl (ne_null_of_gapAt rfl)
      · exact evidence _ _ listed (by decide) rfl (ne_null_of_gapAt rfl)
      · exact evidence _ _ listed (by decide) rfl (ne_null_of_gapAt rfl)
      · exact evidence _ _ listed (by decide) rfl (ne_null_of_gapAt rfl)
      · exact evidence _ _ listed (by decide) rfl (ne_null_of_gapAt rfl)
    · obtain ⟨inner, inner_listed, rfl⟩ := List.mem_map.mp ofGrant
      rw [intentPayload, gapAt_field grantFound]
      exact grantGapsHeld inner inner_listed

end Intent

/-! ## Exactly which gaps fail closed -/

/-- Payloads with gaps among the binding fields raise, or decode to a value whose
authority is never active. -/
def StoredAuthority.FailsClosed (kind : StoredAuthority) (workbench : Bool)
    (gaps : List String → Gap) : Prop :=
  (∃ path ∈ kind.bindingPaths workbench, gaps path ≠ .present) →
    ∀ payload, kind.HasGaps workbench gaps payload → ¬ kind.Activates payload

/-- A set of gaps fails closed exactly when it is empty, or has a gap that the decoder
does not tolerate. -/
theorem legacy_payloads_fail_closed_iff (kind : StoredAuthority) (workbench : Bool)
    (gaps : List String → Gap) :
    kind.FailsClosed workbench gaps ↔
      (∀ path ∈ kind.bindingPaths workbench, gaps path = .present) ∨
        ∃ path ∈ kind.bindingPaths workbench, kind.tolerates path (gaps path) = false := by
  constructor
  · intro closed
    by_contra neither
    push Not at neither
    obtain ⟨gap, tolerated⟩ := neither
    simp only [Bool.not_eq_false] at tolerated
    cases kind with
    | reviewDecision =>
        exact closed gap _ (decisionPayload_gaps tolerated)
          ⟨_, _, decisionPayload_decodes tolerated, legacyDecision_grant workbench _,
            legacyGrant_active workbench _⟩
    | authorityGrant =>
        exact closed gap _ (grantPayload_gaps tolerated)
          ⟨_, grantPayload_decodes tolerated, legacyGrant_active workbench _⟩
    | conversionIntent =>
        exact closed gap _ (intentPayload_gaps tolerated)
          ⟨_, _, intentPayload_decodes tolerated, rfl, legacyGrant_active workbench _⟩
  · rintro (complete | ⟨path, listed, refused⟩) ⟨open_, open_listed, gap⟩ payload has active
    · exact gap (complete open_ open_listed)
    · have tolerated := activates_tolerates has active path listed
      rw [tolerated] at refused
      cases refused

end Legacy

/-! ## A decision without its material version -/

def materialVersionMissing (path : List String) : Gap :=
  if path = ["candidate_material_version"] then .missing else .present

section Sample

local instance legacySha256 : Sha256 := Sha256.extended []

/-- The decoder takes the first version for it, and the approval is active. -/
theorem decision_without_material_version_active :
    gapAt (decisionPayload false materialVersionMissing) ["candidate_material_version"] =
        .missing ∧
      (∀ path ∈ decisionPaths false, path ≠ ["candidate_material_version"] →
        gapAt (decisionPayload false materialVersionMissing) path = .present) ∧
      StoredAuthority.reviewDecision.Activates (decisionPayload false materialVersionMissing) ∧
      ¬ StoredAuthority.reviewDecision.FailsClosed false materialVersionMissing := by
  have tolerated : ∀ path ∈ decisionPaths false,
      StoredAuthority.tolerates .reviewDecision path (materialVersionMissing path) = true := by
    decide
  have has := decisionPayload_gaps tolerated
  have active : StoredAuthority.reviewDecision.Activates
      (decisionPayload false materialVersionMissing) :=
    ⟨_, _, decisionPayload_decodes tolerated, legacyDecision_grant false _,
      legacyGrant_active false _⟩
  have material : ["candidate_material_version"] ∈ decisionPaths false := by decide
  refine ⟨?_, ?_, active, ?_⟩
  · rw [has.2 _ material]
    decide
  · intro path listed other
    rw [has.2 path listed, materialVersionMissing, if_neg other]
  · intro closed
    exact closed ⟨_, material, by decide⟩ _ has active

end Sample

end LotusIdea

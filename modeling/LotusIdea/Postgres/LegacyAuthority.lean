import LotusIdea.Foundation.JsonGaps
import LotusIdea.Postgres.WorkflowJson

/-!
# Authority read back from older payloads

A stored decision, grant or intent may lack the fields that bind its authority, or
hold null in them.  The decoders raise, or fill in a value that no candidate matches,
for most of these gaps; for the others the authority is as active as if the field
were there.
-/

set_option autoImplicit false

namespace LotusIdea

open Json

/-! ## Which fields bind an authority -/

inductive StoredAuthority where
  | reviewDecision
  | authorityGrant
  | conversionIntent
  deriving DecidableEq, Repr

def presentationPaths (workbench : Bool) : List (List String) :=
  if workbench then [["presentation_receipt_id"], ["queue_snapshot_digest"]] else []

def decisionPaths (workbench : Bool) : List (List String) :=
  [["review_id"], ["candidate_id"], ["evidence_packet_id"], ["evidence_content_hash"],
   ["source_revision_vector_digest"], ["source_cut_posture"], ["candidate_material_version"],
   ["candidate_evidence_version"], ["review_channel"], ["review_policy_version"],
   ["review_authority_policy_version"], ["action"], ["resulting_posture"], ["actor_subject"],
   ["actor_role"], ["accepted_at_utc"]] ++ presentationPaths workbench

def grantPaths (workbench : Bool) : List (List String) :=
  [["review_id"], ["candidate_evidence", "candidate_id"],
   ["candidate_evidence", "material_version"], ["candidate_evidence", "evidence_version"],
   ["candidate_evidence", "evidence_packet_id"], ["candidate_evidence", "evidence_content_hash"],
   ["candidate_evidence", "source_revision_vector_digest"],
   ["candidate_evidence", "source_cut_posture"],
   ["candidate_evidence", "source_cut_authority_policy_version"], ["review_channel"],
   ["actor_subject"], ["actor_role"], ["review_policy_version"], ["authority_policy_version"],
   ["accepted_at_utc"], ["status"]] ++ presentationPaths workbench

/-- An intent names the evidence of its grant once more. -/
def intentPaths (workbench : Bool) : List (List String) :=
  [["intent", "candidate_id"], ["evidence_packet_id"], ["evidence_content_hash"],
   ["source_revision_vector_digest"], ["source_cut_posture"]] ++
  (grantPaths workbench).map ("review_authority_grant" :: ·)

namespace StoredAuthority

def bindingPaths : StoredAuthority → Bool → List (List String)
  | .reviewDecision, workbench => decisionPaths workbench
  | .authorityGrant, workbench => grantPaths workbench
  | .conversionIntent, workbench => intentPaths workbench

/-- The missing fields that a decoder fills with what a candidate may match, or that
no evaluation looks at. -/
def defaultedPaths : StoredAuthority → List (List String)
  | .reviewDecision =>
      [["candidate_material_version"], ["candidate_evidence_version"], ["review_policy_version"]]
  | .authorityGrant => []
  | .conversionIntent => []

def spelledGrantPaths : List (List String) :=
  [["review_id"], ["candidate_evidence", "candidate_id"],
   ["candidate_evidence", "evidence_packet_id"], ["actor_subject"], ["actor_role"],
   ["review_policy_version"]]

/-- The nulls that `str(..)` spells as "None". -/
def spelledPaths : StoredAuthority → List (List String)
  | .reviewDecision =>
      [["review_id"], ["candidate_id"], ["evidence_packet_id"], ["review_policy_version"],
       ["actor_subject"]]
  | .authorityGrant => spelledGrantPaths
  | .conversionIntent =>
      [["intent", "candidate_id"], ["evidence_packet_id"]] ++
        spelledGrantPaths.map ("review_authority_grant" :: ·)

/-- A gap that does not keep the authority from being active. -/
def tolerates (kind : StoredAuthority) (path : List String) : Gap → Bool
  | .present => true
  | .missing => kind.defaultedPaths.contains path
  | .null => kind.spelledPaths.contains path

def channelPath : StoredAuthority → List String
  | .reviewDecision => ["review_channel"]
  | .authorityGrant => ["review_channel"]
  | .conversionIntent => ["review_authority_grant", "review_channel"]

end StoredAuthority

/-- The text at the end of a path of keys. -/
def textAt : Json → List String → Option String
  | .str text, [] => some text
  | .obj fields, key :: path => (field? fields key).bind fun value => textAt value path
  | _, _ => none

/-- The gaps of a payload, among the fields that bind its authority. -/
def StoredAuthority.HasGaps (kind : StoredAuthority) (workbench : Bool)
    (gaps : List String → Gap) (payload : Json) : Prop :=
  (textAt payload kind.channelPath = some "workbench" ↔ workbench = true) ∧
    ∀ path ∈ kind.bindingPaths workbench, gapAt payload path = gaps path

section Stored
variable [Sha256]

/-- Some candidate is granted authority at some time. -/
def ReviewAuthorityGrant.ActiveSometime (g : ReviewAuthorityGrant) : Prop :=
  ∃ candidate evaluatedAtUtc, g.effectiveStatus candidate evaluatedAtUtc = .ok .active

/-- The payload decodes to a value whose authority is active sometime. -/
def StoredAuthority.Activates : StoredAuthority → Json → Prop
  | .reviewDecision, payload => ∃ d g, reviewDecisionFromJson payload = .ok d ∧
      d.authorityGrant = .ok (some g) ∧ g.ActiveSometime
  | .authorityGrant, payload => ∃ g, reviewAuthorityGrantFromJson payload = .ok g ∧
      g.ActiveSometime
  | .conversionIntent, payload => ∃ i g, conversionIntentFromJson payload = .ok i ∧
      i.val.reviewAuthorityGrant = some g ∧ g.ActiveSometime

/-! ## What an active grant holds -/

structure ReviewAuthorityGrant.BindsEvidence (g : ReviewAuthorityGrant) : Prop where
  authorityPolicy : g.val.authorityPolicyVersion = reviewAuthorityPolicyVersion
  contentHash : isSha256Digest g.val.candidateEvidence.val.evidenceContentHash = true
  revisionVector : ∃ rest, g.val.candidateEvidence.val.sourceRevisionVectorDigest =
    sha256DigestStart ++ rest
  sourceCut : sourceCutIsAuthoritative g.val.candidateEvidence.val.sourceCutPosture = true
  sourceCutPolicy : g.val.candidateEvidence.val.sourceCutAuthorityPolicyVersion =
    sourceCutAuthorityPolicyVersion

theorem ReviewAuthorityGrant.ActiveSometime.bindsEvidence {g : ReviewAuthorityGrant}
    (active : g.ActiveSometime) : g.BindsEvidence := by
  obtain ⟨candidate, evaluatedAtUtc, evaluated⟩ := active
  obtain ⟨_, status⟩ := effectiveStatus_returns evaluated
  have evidence := evidence_of_active status
  have lineage := candidate.val.evidencePacket.val.lineageRef.valid
  simp only [LineageRefFields.checks, requireSha256Digest, firstFailure_cons,
    Bool.not_eq_false'] at lineage
  have policy : g.val.authorityPolicyVersion = reviewAuthorityPolicyVersion := by
    by_contra other
    by_cases issued : g.val.status = .active
    · simp [statusAt, issued, other] at status
    · simp [statusAt, issued] at status
  have authoritative :
      sourceCutIsAuthoritative candidate.val.evidencePacket.sourceCutPosture = true := by
    by_contra other
    rw [Bool.not_eq_true] at other
    by_cases issued : g.val.status = .active
    · simp [statusAt, issued, policy, evidence, other] at status
    · simp [statusAt, issued] at status
  refine ⟨policy, ?_, ?_, ?_, ?_⟩
  · rw [evidence]
    exact lineage.2.1
  · rw [evidence]
    exact ⟨_, rfl⟩
  · rw [evidence]
    exact authoritative
  · rw [evidence]
    rfl

omit [Sha256] in
theorem digest_ne_of_head {digest text : String} (starts : ∃ rest, digest = sha256DigestStart ++ rest)
    (other : PyText.startsWith text sha256DigestStart = false) : digest ≠ text := by
  obtain ⟨rest, rfl⟩ := starts
  intro same
  have starts : sha256DigestStart.toList <+: text.toList := by
    rw [← same, String.toList_append]
    exact List.prefix_append _ _
  rw [PyText.startsWith, List.isPrefixOf_iff_prefix.mpr starts] at other
  cases other

/-! ## What the decoders read -/

omit [Sha256] in
theorem construct_returns {α ε : Type} {checks : α → List (Bool × ε)} {fields : α}
    {made : Checked checks} (run : construct fields = (.ok made : Except (DecodeError ε) _)) :
    made.val = fields := by
  simp only [construct] at run
  cases built : Checked.make checks fields with
  | error raised =>
      rw [built] at run
      cases run
  | ok value =>
      rw [built] at run
      cases run
      exact Checked.make_eq_ok.mp built

structure EvidenceRead (payload : Json) (i : CandidateEvidenceIdentity) : Prop where
  candidateId : item readText payload "candidate_id" = (.ok i.val.candidateId : Decoded String)
  materialVersion : item readInt payload "material_version" =
    (.ok i.val.materialVersion : Decoded Int)
  evidenceVersion : item readInt payload "evidence_version" =
    (.ok i.val.evidenceVersion : Decoded Int)
  evidencePacketId : item readText payload "evidence_packet_id" =
    (.ok i.val.evidencePacketId : Decoded String)
  evidenceContentHash : item readText payload "evidence_content_hash" =
    (.ok i.val.evidenceContentHash : Decoded String)
  sourceRevisionVectorDigest :
    itemOr readText payload "source_revision_vector_digest" (.str "legacy:unknown") =
      (.ok i.val.sourceRevisionVectorDigest : Decoded String)
  sourceCutPosture : itemOr readMember payload "source_cut_posture" (.str "unknown") =
    (.ok i.val.sourceCutPosture : Decoded SourceCutPosture)
  sourceCutAuthorityPolicyVersion :
    itemOr readText payload "source_cut_authority_policy_version" (.str "legacy-unverified") =
      (.ok i.val.sourceCutAuthorityPolicyVersion : Decoded String)

omit [Sha256] in
theorem candidateEvidenceFromJson_returns {payload : Json} {i : CandidateEvidenceIdentity}
    (run : candidateEvidenceFromJson payload = .ok i) : EvidenceRead payload i := by
  simp only [candidateEvidenceFromJson] at run
  obtain ⟨_, candidateId, run⟩ := Except.seq_returns.mp run
  obtain ⟨_, materialVersion, run⟩ := Except.seq_returns.mp run
  obtain ⟨_, evidenceVersion, run⟩ := Except.seq_returns.mp run
  obtain ⟨_, packetId, run⟩ := Except.seq_returns.mp run
  obtain ⟨_, contentHash, run⟩ := Except.seq_returns.mp run
  obtain ⟨_, vector, run⟩ := Except.seq_returns.mp run
  obtain ⟨_, posture, run⟩ := Except.seq_returns.mp run
  obtain ⟨_, policy, run⟩ := Except.seq_returns.mp run
  have fields := construct_returns run
  constructor <;> rw [fields] <;> assumption

structure GrantRead (payload : Json) (g : ReviewAuthorityGrant) : Prop where
  reviewId : item readText payload "review_id" = (.ok g.val.reviewId : Decoded String)
  candidateEvidence : item candidateEvidenceFromJson payload "candidate_evidence" =
    .ok g.val.candidateEvidence
  reviewChannel : item readMember payload "review_channel" =
    (.ok g.val.reviewChannel : Decoded ReviewChannel)
  actorSubject : item readText payload "actor_subject" = (.ok g.val.actorSubject : Decoded String)
  actorRole : item readText payload "actor_role" = (.ok g.val.actorRole : Decoded String)
  reviewPolicyVersion : item readText payload "review_policy_version" =
    (.ok g.val.reviewPolicyVersion : Decoded String)
  authorityPolicyVersion :
    itemOr readText payload "authority_policy_version" (.str "legacy-unverified") =
      (.ok g.val.authorityPolicyVersion : Decoded String)
  acceptedAtUtc : item readTime payload "accepted_at_utc" =
    (.ok g.val.acceptedAtUtc : Decoded DateTime)
  presentationReceiptId : optionalItem readText payload "presentation_receipt_id" =
    (.ok g.val.presentationReceiptId : Decoded (Option String))
  queueSnapshotDigest : optionalItem readText payload "queue_snapshot_digest" =
    (.ok g.val.queueSnapshotDigest : Decoded (Option String))
  status : item readMember payload "status" = (.ok g.val.status : Decoded ReviewAuthorityStatus)

omit [Sha256] in
theorem reviewAuthorityGrantFromJson_returns {payload : Json} {g : ReviewAuthorityGrant}
    (run : reviewAuthorityGrantFromJson payload = .ok g) : GrantRead payload g := by
  simp only [reviewAuthorityGrantFromJson] at run
  obtain ⟨_, reviewId, run⟩ := Except.seq_returns.mp run
  obtain ⟨_, evidence, run⟩ := Except.seq_returns.mp run
  obtain ⟨_, channel, run⟩ := Except.seq_returns.mp run
  obtain ⟨_, subject, run⟩ := Except.seq_returns.mp run
  obtain ⟨_, role, run⟩ := Except.seq_returns.mp run
  obtain ⟨_, policy, run⟩ := Except.seq_returns.mp run
  obtain ⟨_, authority, run⟩ := Except.seq_returns.mp run
  obtain ⟨_, accepted, run⟩ := Except.seq_returns.mp run
  obtain ⟨_, expiry, run⟩ := Except.seq_returns.mp run
  obtain ⟨_, receipt, run⟩ := Except.seq_returns.mp run
  obtain ⟨_, queue, run⟩ := Except.seq_returns.mp run
  obtain ⟨_, status, run⟩ := Except.seq_returns.mp run
  have fields := construct_returns run
  constructor <;> rw [fields] <;> assumption

structure DecisionRead (payload : Json) (d : GovernedReviewDecision) : Prop where
  reviewId : item readText payload "review_id" = (.ok d.val.reviewId : Decoded String)
  candidateId : item readText payload "candidate_id" = (.ok d.val.candidateId : Decoded String)
  evidencePacketId : item readText payload "evidence_packet_id" =
    (.ok d.val.evidencePacketId : Decoded String)
  evidenceContentHash : item readText payload "evidence_content_hash" =
    (.ok d.val.evidenceContentHash : Decoded String)
  sourceRevisionVectorDigest :
    itemOr readText payload "source_revision_vector_digest" (.str "legacy:unknown") =
      (.ok d.val.sourceRevisionVectorDigest : Decoded String)
  sourceCutPosture : itemOr readMember payload "source_cut_posture" (.str "unknown") =
    (.ok d.val.sourceCutPosture : Decoded SourceCutPosture)
  candidateMaterialVersion : itemOr readInt payload "candidate_material_version" (.int 1) =
    (.ok d.val.candidateMaterialVersion : Decoded Int)
  candidateEvidenceVersion : itemOr readInt payload "candidate_evidence_version" (.int 1) =
    (.ok d.val.candidateEvidenceVersion : Decoded Int)
  reviewChannel : itemOr readMember payload "review_channel" (.str "legacy_unverified") =
    (.ok d.val.reviewChannel : Decoded ReviewChannel)
  presentationReceiptId : optionalItem readText payload "presentation_receipt_id" =
    (.ok d.val.presentationReceiptId : Decoded (Option String))
  queueSnapshotDigest : optionalItem readText payload "queue_snapshot_digest" =
    (.ok d.val.queueSnapshotDigest : Decoded (Option String))
  reviewPolicyVersion :
    itemOr readText payload "review_policy_version" (.str "legacy-unverified") =
      (.ok d.val.reviewPolicyVersion : Decoded String)
  reviewAuthorityPolicyVersion :
    itemOr readText payload "review_authority_policy_version" (.str "legacy-unverified") =
      (.ok d.val.reviewAuthorityPolicyVersion : Decoded String)
  action : item readMember payload "action" = (.ok d.val.action : Decoded ReviewAction)
  resultingPosture : item readMember payload "resulting_posture" =
    (.ok d.val.resultingPosture : Decoded ReviewPosture)
  actorSubject : item readText payload "actor_subject" = (.ok d.val.actorSubject : Decoded String)
  actorRole : item readMember payload "actor_role" = (.ok d.val.actorRole : Decoded ReviewActorRole)
  acceptedAtUtc : item readTime payload "accepted_at_utc" =
    (.ok d.val.acceptedAtUtc : Decoded DateTime)

omit [Sha256] in
theorem reviewDecisionFromJson_returns {payload : Json} {d : GovernedReviewDecision}
    (run : reviewDecisionFromJson payload = .ok d) : DecisionRead payload d := by
  simp only [reviewDecisionFromJson] at run
  obtain ⟨_, reviewId, run⟩ := Except.seq_returns.mp run
  obtain ⟨_, candidateId, run⟩ := Except.seq_returns.mp run
  obtain ⟨_, packetId, run⟩ := Except.seq_returns.mp run
  obtain ⟨_, contentHash, run⟩ := Except.seq_returns.mp run
  obtain ⟨_, vector, run⟩ := Except.seq_returns.mp run
  obtain ⟨_, posture, run⟩ := Except.seq_returns.mp run
  obtain ⟨_, material, run⟩ := Except.seq_returns.mp run
  obtain ⟨_, evidence, run⟩ := Except.seq_returns.mp run
  obtain ⟨_, channel, run⟩ := Except.seq_returns.mp run
  obtain ⟨_, receipt, run⟩ := Except.seq_returns.mp run
  obtain ⟨_, queue, run⟩ := Except.seq_returns.mp run
  obtain ⟨_, policy, run⟩ := Except.seq_returns.mp run
  obtain ⟨_, authority, run⟩ := Except.seq_returns.mp run
  obtain ⟨_, expiry, run⟩ := Except.seq_returns.mp run
  obtain ⟨_, action, run⟩ := Except.seq_returns.mp run
  obtain ⟨_, resulting, run⟩ := Except.seq_returns.mp run
  obtain ⟨_, subject, run⟩ := Except.seq_returns.mp run
  obtain ⟨_, role, run⟩ := Except.seq_returns.mp run
  obtain ⟨_, reasons, run⟩ := Except.seq_returns.mp run
  obtain ⟨_, decided, run⟩ := Except.seq_returns.mp run
  obtain ⟨_, accepted, run⟩ := Except.seq_returns.mp run
  obtain ⟨_, source, run⟩ := Except.seq_returns.mp run
  obtain ⟨_, suppression, run⟩ := Except.seq_returns.mp run
  obtain ⟨_, snoozed, run⟩ := Except.seq_returns.mp run
  have fields := construct_returns run
  constructor <;> rw [fields] <;> assumption

/-! ## Gaps that keep an authority from being active -/

section Gaps
variable {α : Type} {read : Json → Decoded α} {payload : Json} {key : String} {a : α}

omit [Sha256] in
theorem present_of_item (run : item read payload key = .ok a) (null : read .null ≠ .ok a) :
    gapAt payload [key] = .present := by
  cases gap : gapAt payload [key] with
  | missing => exact absurd gap (item_not_missing run)
  | null => exact absurd (item_of_null run gap) null
  | present => rfl

omit [Sha256] in
theorem present_of_itemOr {default : Json} (run : itemOr read payload key default = .ok a)
    (missing : read default ≠ .ok a) (null : read .null ≠ .ok a) :
    gapAt payload [key] = .present := by
  cases gap : gapAt payload [key] with
  | missing => exact absurd (itemOr_of_missing run gap) missing
  | null => exact absurd (itemOr_of_null run gap) null
  | present => rfl

omit [Sha256] in
theorem present_of_optional {value : Option α} (run : optionalItem read payload key = .ok value)
    (held : value.isSome = true) : gapAt payload [key] = .present := by
  by_contra gap
  rw [optionalItem_of_gap run gap] at held
  cases held

end Gaps

omit [Sha256] in
theorem readTime_null : (readTime .null : Decoded DateTime) =
    .error (.valueError "Invalid isoformat string: None") := by
  decide +kernel

omit [Sha256] in
theorem readMember_null {α : Type} [PyEnum α] : (readMember .null : Decoded α) =
    .error (.valueError "the value is not a valid member") := rfl

omit [Sha256] in
theorem readInt_null : (readInt .null : Decoded Int) =
    .error (.typeError "a number is expected") := rfl

omit [Sha256] in
/-- A text that a null may not be read as. -/
theorem readText_null_ne {text : String} (other : text ≠ "None") :
    (readText .null : Decoded String) ≠ .ok text := by
  intro same
  cases same
  exact other rfl

omit [Sha256] in
theorem contentHash_ne_none {hash : String} (digest : isSha256Digest hash = true) :
    hash ≠ "None" := by
  intro same
  rw [same] at digest
  revert digest
  decide

omit [Sha256] in
theorem presentation_present {receiptId queueSnapshotDigest : Option String} {payload : Json}
    (receipt : optionalItem readText payload "presentation_receipt_id" =
      (.ok receiptId : Decoded (Option String)))
    (queue : optionalItem readText payload "queue_snapshot_digest" =
      (.ok queueSnapshotDigest : Decoded (Option String)))
    (held : receiptId.isSome = true ∧ queueSnapshotDigest.isSome = true) :
    ∀ path ∈ presentationPaths true, gapAt payload path = .present := by
  simp only [presentationPaths, if_true, List.forall_mem_cons, List.not_mem_nil, false_implies,
    implies_true, and_true]
  exact ⟨present_of_optional receipt held.1, present_of_optional queue held.2⟩

section Tolerated
variable {kind : StoredAuthority} {path : List String} {gap : Gap}

omit [Sha256] in
theorem tolerates_present (gapPresent : gap = .present) : kind.tolerates path gap = true := by
  rw [gapPresent]
  rfl

omit [Sha256] in
/-- A field that is read as text, whose null is spelled out. -/
theorem tolerates_spelled (there : gap ≠ .missing)
    (spelled : kind.spelledPaths.contains path = true) : kind.tolerates path gap = true := by
  cases gap with
  | missing => exact absurd rfl there
  | null => exact spelled
  | present => rfl

omit [Sha256] in
theorem tolerates_defaulted (shown : gap ≠ .null)
    (defaulted : kind.defaultedPaths.contains path = true) : kind.tolerates path gap = true := by
  cases gap with
  | missing => exact defaulted
  | null => exact absurd rfl shown
  | present => rfl

end Tolerated

omit [Sha256] in
theorem not_null_of_itemOr {α : Type} {read : Json → Decoded α} {payload default : Json}
    {key : String} {a : α} (run : itemOr read payload key default = .ok a)
    (null : read .null ≠ .ok a) : gapAt payload [key] ≠ .null :=
  fun gap => null (itemOr_of_null run gap)

omit [Sha256] in
theorem textAt_key {payload : Json} {key text : String} (told : textAt payload [key] = some text) :
    ∃ fields, payload = .obj fields ∧ field? fields key = some (.str text) := by
  cases payload with
  | obj fields =>
      refine ⟨fields, rfl, ?_⟩
      simp only [textAt] at told
      obtain ⟨value, found, told⟩ := Option.bind_eq_some_iff.mp told
      cases value with
      | str given =>
          simp only [textAt, Option.some.injEq] at told
          rw [found, told]
      | null | bool _ | int _ | arr _ | obj _ => cases told
  | null | bool _ | int _ | str _ | arr _ => cases told

omit [Sha256] in
theorem readMember_workbench :
    (readMember (.str "workbench") : Decoded ReviewChannel) = .ok .workbench := by
  decide

omit [Sha256] in
theorem workbench_of_item {payload : Json} {channel : ReviewChannel}
    (run : item readMember payload "review_channel" = (.ok channel : Decoded ReviewChannel))
    (told : textAt payload ["review_channel"] = some "workbench") : channel = .workbench := by
  obtain ⟨fields, rfl, found⟩ := textAt_key told
  rw [item_obj found, readMember_workbench] at run
  cases run
  rfl

omit [Sha256] in
theorem workbench_of_itemOr {payload default : Json} {channel : ReviewChannel}
    (run : itemOr readMember payload "review_channel" default =
      (.ok channel : Decoded ReviewChannel))
    (told : textAt payload ["review_channel"] = some "workbench") : channel = .workbench := by
  obtain ⟨fields, rfl, found⟩ := textAt_key told
  rw [itemOr_obj found, readMember_workbench] at run
  cases run
  rfl

omit [Sha256] in
theorem grant_presentation (g : ReviewAuthorityGrant) (workbench : g.val.reviewChannel = .workbench) :
    g.val.presentationReceiptId.isSome = true ∧ g.val.queueSnapshotDigest.isSome = true := by
  have valid := g.valid
  simp only [ReviewAuthorityGrantFields.checks, ReviewAuthorityGrantFields.presentationChecks,
    workbench, if_true, firstFailure_append, firstFailure_cons, Bool.or_eq_false_iff,
    Option.isNone_eq_false_iff] at valid
  exact valid.2.1

omit [Sha256] in
theorem decision_presentation (d : GovernedReviewDecision)
    (workbench : d.val.reviewChannel = .workbench) :
    d.val.presentationReceiptId.isSome = true ∧ d.val.queueSnapshotDigest.isSome = true := by
  have valid := d.valid
  simp only [GovernedReviewDecisionFields.checks, GovernedReviewDecisionFields.presentationChecks,
    workbench, if_true, firstFailure_append, firstFailure_cons, Bool.or_eq_false_iff,
    Option.isNone_eq_false_iff] at valid
  exact valid.1.1.2.1

omit [Sha256] in
theorem vector_present {payload : Json} {digest : String}
    (run : itemOr readText payload "source_revision_vector_digest" (.str "legacy:unknown") =
      (.ok digest : Decoded String)) (starts : ∃ rest, digest = sha256DigestStart ++ rest) :
    gapAt payload ["source_revision_vector_digest"] = .present := by
  have notLegacy : digest ≠ "legacy:unknown" := digest_ne_of_head starts (by decide)
  have notNone : digest ≠ "None" := digest_ne_of_head starts (by decide)
  refine present_of_itemOr run ?_ (readText_null_ne notNone)
  intro same
  cases same
  exact notLegacy rfl

omit [Sha256] in
theorem posture_present {payload : Json} {posture : SourceCutPosture}
    (run : itemOr readMember payload "source_cut_posture" (.str "unknown") =
      (.ok posture : Decoded SourceCutPosture)) (authoritative : sourceCutIsAuthoritative posture) :
    gapAt payload ["source_cut_posture"] = .present := by
  have unknown : (readMember (.str "unknown") : Decoded SourceCutPosture) = .ok .unknown := by
    decide
  refine present_of_itemOr run ?_ nofun
  intro same
  rw [unknown] at same
  cases same
  cases authoritative

omit [Sha256] in
theorem policy_present {payload : Json} {key policy : String}
    (run : itemOr readText payload key (.str "legacy-unverified") = (.ok policy : Decoded String))
    (current : policy ≠ "legacy-unverified" ∧ policy ≠ "None") :
    gapAt payload [key] = .present := by
  refine present_of_itemOr run ?_ (readText_null_ne current.2)
  intro same
  cases same
  exact current.1 rfl

omit [Sha256] in
/-- The presentation of a Workbench payload is there. -/
theorem presentation_tolerated {kind : StoredAuthority} {payload : Json} {workbench : Bool}
    {receiptId queueSnapshotDigest : Option String}
    (receipt : optionalItem readText payload "presentation_receipt_id" =
      (.ok receiptId : Decoded (Option String)))
    (queue : optionalItem readText payload "queue_snapshot_digest" =
      (.ok queueSnapshotDigest : Decoded (Option String)))
    (held : workbench = true → receiptId.isSome = true ∧ queueSnapshotDigest.isSome = true) :
    ∀ path ∈ presentationPaths workbench, kind.tolerates path (gapAt payload path) = true := by
  intro path listed
  cases workbench with
  | false => cases listed
  | true => exact tolerates_present (presentation_present receipt queue (held rfl) path listed)

/-- An active grant has only gaps that are tolerated. -/
theorem grant_tolerates {payload : Json} {g : ReviewAuthorityGrant} {workbench : Bool}
    (told : GrantRead payload g) (active : g.ActiveSometime)
    (channel : textAt payload ["review_channel"] = some "workbench" ↔ workbench = true) :
    ∀ path ∈ grantPaths workbench,
      StoredAuthority.tolerates .authorityGrant path (gapAt payload path) = true := by
  have binds := active.bindsEvidence
  have presentation : ∀ path ∈ presentationPaths workbench,
      StoredAuthority.tolerates .authorityGrant path (gapAt payload path) = true := by
    refine presentation_tolerated told.presentationReceiptId told.queueSnapshotDigest ?_
    intro isWorkbench
    exact grant_presentation g (workbench_of_item told.reviewChannel (channel.mpr isWorkbench))
  obtain ⟨fields, evidence, rfl, found, decoded⟩ := item_returns told.candidateEvidence
  have inner := candidateEvidenceFromJson_returns decoded
  simp only [grantPaths, List.forall_mem_append, List.forall_mem_cons,
    gapAt_field found]
  refine ⟨⟨?_, ?_, ?_, ?_, ?_, ?_, ?_, ?_, ?_, ?_, ?_, ?_, ?_, ?_, ?_, ?_, nofun⟩, presentation⟩
  · exact tolerates_spelled (item_not_missing told.reviewId) (by decide)
  · exact tolerates_spelled (item_not_missing inner.candidateId) (by decide)
  · exact tolerates_present (present_of_item inner.materialVersion nofun)
  · exact tolerates_present (present_of_item inner.evidenceVersion nofun)
  · exact tolerates_spelled (item_not_missing inner.evidencePacketId) (by decide)
  · exact tolerates_present (present_of_item inner.evidenceContentHash
      (readText_null_ne (contentHash_ne_none binds.contentHash)))
  · exact tolerates_present (vector_present inner.sourceRevisionVectorDigest binds.revisionVector)
  · exact tolerates_present (posture_present inner.sourceCutPosture binds.sourceCut)
  · refine tolerates_present (policy_present inner.sourceCutAuthorityPolicyVersion ?_)
    rw [binds.sourceCutPolicy]
    decide
  · exact tolerates_present (present_of_item told.reviewChannel nofun)
  · exact tolerates_spelled (item_not_missing told.actorSubject) (by decide)
  · exact tolerates_spelled (item_not_missing told.actorRole) (by decide)
  · exact tolerates_spelled (item_not_missing told.reviewPolicyVersion) (by decide)
  · refine tolerates_present (policy_present told.authorityPolicyVersion ?_)
    rw [binds.authorityPolicy]
    decide
  · exact tolerates_present (present_of_item told.acceptedAtUtc (by rw [readTime_null]; nofun))
  · exact tolerates_present (present_of_item told.status nofun)

omit [Sha256] in
/-- The fields of a grant are those of its decision. -/
theorem authorityGrant_fields {d : GovernedReviewDecision} {g : ReviewAuthorityGrant}
    (run : d.authorityGrant = .ok (some g)) :
    d.val.reviewChannel ≠ .legacyUnverified ∧
      g.val.authorityPolicyVersion = d.val.reviewAuthorityPolicyVersion ∧
      g.val.candidateEvidence.val.evidenceContentHash = d.val.evidenceContentHash ∧
      g.val.candidateEvidence.val.sourceRevisionVectorDigest = d.val.sourceRevisionVectorDigest ∧
      g.val.candidateEvidence.val.sourceCutPosture = d.val.sourceCutPosture := by
  unfold GovernedReviewDecision.authorityGrant at run
  split at run
  · cases run
  · rename_i approves
    push Not at approves
    cases built : Checked.make ReviewAuthorityGrantFields.checks _ with
    | error raised =>
        rw [built] at run
        cases run
    | ok grant =>
        rw [built] at run
        cases run
        have fields := Checked.make_eq_ok.mp built
        rw [fields]
        exact ⟨approves.2, rfl, rfl, rfl, rfl⟩

/-- A decision with an active grant has only gaps that are tolerated. -/
theorem decision_tolerates {payload : Json} {d : GovernedReviewDecision}
    {g : ReviewAuthorityGrant} {workbench : Bool} (told : DecisionRead payload d)
    (granted : d.authorityGrant = .ok (some g)) (active : g.ActiveSometime)
    (channel : textAt payload ["review_channel"] = some "workbench" ↔ workbench = true) :
    ∀ path ∈ decisionPaths workbench,
      StoredAuthority.tolerates .reviewDecision path (gapAt payload path) = true := by
  obtain ⟨unverified, authority, hash, vector, posture⟩ := authorityGrant_fields granted
  have binds := active.bindsEvidence
  have presentation : ∀ path ∈ presentationPaths workbench,
      StoredAuthority.tolerates .reviewDecision path (gapAt payload path) = true := by
    refine presentation_tolerated told.presentationReceiptId told.queueSnapshotDigest ?_
    intro isWorkbench
    exact decision_presentation d (workbench_of_itemOr told.reviewChannel (channel.mpr isWorkbench))
  have legacy : (readMember (.str "legacy_unverified") : Decoded ReviewChannel) =
      .ok .legacyUnverified := by decide
  simp only [decisionPaths, List.forall_mem_append, List.forall_mem_cons]
  refine ⟨⟨?_, ?_, ?_, ?_, ?_, ?_, ?_, ?_, ?_, ?_, ?_, ?_, ?_, ?_, ?_, ?_, nofun⟩, presentation⟩
  · exact tolerates_spelled (item_not_missing told.reviewId) (by decide)
  · exact tolerates_spelled (item_not_missing told.candidateId) (by decide)
  · exact tolerates_spelled (item_not_missing told.evidencePacketId) (by decide)
  · exact tolerates_present (present_of_item told.evidenceContentHash
      (readText_null_ne (contentHash_ne_none (hash ▸ binds.contentHash))))
  · exact tolerates_present (vector_present told.sourceRevisionVectorDigest
      (vector ▸ binds.revisionVector))
  · exact tolerates_present (posture_present told.sourceCutPosture (posture ▸ binds.sourceCut))
  · exact tolerates_defaulted (not_null_of_itemOr told.candidateMaterialVersion nofun) (by decide)
  · exact tolerates_defaulted (not_null_of_itemOr told.candidateEvidenceVersion nofun) (by decide)
  · refine tolerates_present (present_of_itemOr told.reviewChannel ?_ nofun)
    intro same
    exact unverified (Except.ok.inj (same.symm.trans legacy))
  · cases gapAt payload ["review_policy_version"] <;> decide
  · refine tolerates_present (policy_present told.reviewAuthorityPolicyVersion ?_)
    rw [← authority, binds.authorityPolicy]
    decide
  · exact tolerates_present (present_of_item told.action nofun)
  · exact tolerates_present (present_of_item told.resultingPosture nofun)
  · exact tolerates_spelled (item_not_missing told.actorSubject) (by decide)
  · exact tolerates_present (present_of_item told.actorRole nofun)
  · exact tolerates_present (present_of_item told.acceptedAtUtc (by rw [readTime_null]; nofun))

structure IntentRead (payload : Json) (i : GovernedConversionIntent) : Prop where
  intent : item ideaConversionIntentFromJson payload "intent" = .ok i.val.intent
  evidencePacketId : item readText payload "evidence_packet_id" =
    (.ok i.val.evidencePacketId : Decoded String)
  evidenceContentHash : item readText payload "evidence_content_hash" =
    (.ok i.val.evidenceContentHash : Decoded String)
  sourceRevisionVectorDigest :
    itemOr readText payload "source_revision_vector_digest" (.str "legacy:unknown") =
      (.ok i.val.sourceRevisionVectorDigest : Decoded String)
  sourceCutPosture : itemOr readMember payload "source_cut_posture" (.str "unknown") =
    (.ok i.val.sourceCutPosture : Decoded SourceCutPosture)
  grant : optionalItem reviewAuthorityGrantFromJson payload "review_authority_grant" =
    .ok i.val.reviewAuthorityGrant

omit [Sha256] in
theorem conversionIntentFromJson_returns {payload : Json} {i : GovernedConversionIntent}
    (run : conversionIntentFromJson payload = .ok i) : IntentRead payload i := by
  simp only [conversionIntentFromJson] at run
  obtain ⟨_, intent, run⟩ := Except.seq_returns.mp run
  obtain ⟨_, packetId, run⟩ := Except.seq_returns.mp run
  obtain ⟨_, contentHash, run⟩ := Except.seq_returns.mp run
  obtain ⟨_, vector, run⟩ := Except.seq_returns.mp run
  obtain ⟨_, posture, run⟩ := Except.seq_returns.mp run
  obtain ⟨_, _, run⟩ := Except.seq_returns.mp run
  obtain ⟨_, _, run⟩ := Except.seq_returns.mp run
  obtain ⟨_, _, run⟩ := Except.seq_returns.mp run
  obtain ⟨_, _, run⟩ := Except.seq_returns.mp run
  obtain ⟨_, _, run⟩ := Except.seq_returns.mp run
  obtain ⟨_, _, run⟩ := Except.seq_returns.mp run
  obtain ⟨_, grant, run⟩ := Except.seq_returns.mp run
  obtain ⟨_, _, run⟩ := Except.seq_returns.mp run
  obtain ⟨_, _, run⟩ := Except.seq_returns.mp run
  have fields := construct_returns run
  constructor <;> rw [fields] <;> assumption

omit [Sha256] in
theorem ideaConversionIntentFromJson_candidate {payload : Json} {intent : IdeaConversionIntent}
    (run : ideaConversionIntentFromJson payload = .ok intent) :
    item readText payload "candidate_id" = (.ok intent.val.candidateId : Decoded String) := by
  simp only [ideaConversionIntentFromJson] at run
  obtain ⟨_, _, run⟩ := Except.seq_returns.mp run
  obtain ⟨_, candidateId, run⟩ := Except.seq_returns.mp run
  obtain ⟨_, _, run⟩ := Except.seq_returns.mp run
  obtain ⟨_, _, run⟩ := Except.seq_returns.mp run
  obtain ⟨_, _, run⟩ := Except.seq_returns.mp run
  rw [construct_returns run]
  exact candidateId

omit [Sha256] in
/-- The evidence of an intent is that of its grant. -/
theorem intent_evidence {i : GovernedConversionIntent} {g : ReviewAuthorityGrant}
    (held : i.val.reviewAuthorityGrant = some g) :
    g.val.candidateEvidence.val.evidenceContentHash = i.val.evidenceContentHash ∧
      g.val.candidateEvidence.val.sourceRevisionVectorDigest = i.val.sourceRevisionVectorDigest ∧
      g.val.candidateEvidence.val.sourceCutPosture = i.val.sourceCutPosture := by
  have valid := i.valid
  simp only [GovernedConversionIntentFields.checks, held, Option.elim_some, firstFailure_append,
    GovernedConversionIntentFields.grantChecks, firstFailure_cons, bne_eq_false_iff_eq,
    Bool.or_eq_false_iff] at valid
  obtain ⟨_, _, _, hash, ⟨vector, posture⟩, _⟩ := valid
  exact ⟨hash, vector, posture⟩

/-- An intent with an active grant has only gaps that are tolerated. -/
theorem intent_tolerates {payload : Json} {i : GovernedConversionIntent}
    {g : ReviewAuthorityGrant} {workbench : Bool} (told : IntentRead payload i)
    (held : i.val.reviewAuthorityGrant = some g) (active : g.ActiveSometime)
    (channel : textAt payload ["review_authority_grant", "review_channel"] = some "workbench" ↔
      workbench = true) :
    ∀ path ∈ intentPaths workbench,
      StoredAuthority.tolerates .conversionIntent path (gapAt payload path) = true := by
  have binds := active.bindsEvidence
  obtain ⟨hash, vector, posture⟩ := intent_evidence held
  have grant := told.grant
  rw [held] at grant
  obtain ⟨fields, value, rfl, found, decodedGrant⟩ := optionalItem_returns grant
  obtain ⟨others, inner, same, innerFound, innerDecoded⟩ := item_returns told.intent
  have sameFields : fields = others := by injection same
  subst sameFields
  have grantChannel : textAt value ["review_channel"] = some "workbench" ↔ workbench = true := by
    simpa [textAt, found] using channel
  have ofGrant : ∀ path ∈ (grantPaths workbench).map ("review_authority_grant" :: ·),
      StoredAuthority.tolerates .conversionIntent path (gapAt (.obj fields) path) = true := by
    intro path listed
    obtain ⟨inner, inner_listed, rfl⟩ := List.mem_map.mp listed
    have tolerated := grant_tolerates (reviewAuthorityGrantFromJson_returns decodedGrant) active
      grantChannel inner inner_listed
    rw [gapAt_field found]
    cases gap : gapAt value inner with
    | missing =>
        rw [gap] at tolerated
        cases tolerated
    | null =>
        rw [gap] at tolerated
        simpa [StoredAuthority.tolerates, StoredAuthority.spelledPaths] using tolerated
    | present => rfl
  simp only [intentPaths, List.forall_mem_append, List.forall_mem_cons]
  refine ⟨⟨?_, ?_, ?_, ?_, ?_, nofun⟩, ofGrant⟩
  · rw [gapAt_field innerFound]
    exact tolerates_spelled (item_not_missing (ideaConversionIntentFromJson_candidate innerDecoded))
      (by decide)
  · exact tolerates_spelled (item_not_missing told.evidencePacketId) (by decide)
  · exact tolerates_present (present_of_item told.evidenceContentHash
      (readText_null_ne (contentHash_ne_none (hash ▸ binds.contentHash))))
  · exact tolerates_present (vector_present told.sourceRevisionVectorDigest
      (vector ▸ binds.revisionVector))
  · exact tolerates_present (posture_present told.sourceCutPosture (posture ▸ binds.sourceCut))

/-- A payload that activates has only gaps that are tolerated. -/
theorem activates_tolerates {kind : StoredAuthority} {workbench : Bool}
    {gaps : List String → Gap} {payload : Json} (has : kind.HasGaps workbench gaps payload)
    (active : kind.Activates payload) :
    ∀ path ∈ kind.bindingPaths workbench, kind.tolerates path (gaps path) = true := by
  obtain ⟨channel, same⟩ := has
  intro path listed
  rw [← same path listed]
  cases kind with
  | reviewDecision =>
      obtain ⟨d, g, decoded, granted, active⟩ := active
      exact decision_tolerates (reviewDecisionFromJson_returns decoded) granted active channel path
        listed
  | authorityGrant =>
      obtain ⟨g, decoded, active⟩ := active
      exact grant_tolerates (reviewAuthorityGrantFromJson_returns decoded) active channel path listed
  | conversionIntent =>
      obtain ⟨i, g, decoded, held, active⟩ := active
      exact intent_tolerates (conversionIntentFromJson_returns decoded) held active channel path
        listed

end Stored

end LotusIdea

import LotusIdea.Postgres.SubmissionRow
import LotusIdea.Repository.ErrorAtomicity
import LotusIdea.Downstream.SubmissionStateMachine

/-!
# Which records a reload gives back

A stored record is lossless when reading it gives a value that compares equal to
the one written.  Decisions, feedback, intents, outcomes and packs always are.  A
candidate is not when its sources list their causal inputs in another order than
that of their products, or when it was scored under a policy that the codec does
not know; a submission is not when its report materialization carries a blank id.
-/

set_option autoImplicit false

namespace LotusIdea

/-- Reading what is stored for `x` gives a value that is the `same` as `x`. -/
def Lossless {α β ε : Type} (same : α → α → Prop) (write : α → β) (read : β → Except ε α)
    (x : α) : Prop :=
  ∃ y, read (write x) = .ok y ∧ same y x

section
variable {α β ε : Type} {same : α → α → Prop} {write : α → β} {read : β → Except ε α} {x : α}

theorem lossless_of_read (back : read (write x) = .ok x) : Lossless Eq write read x :=
  ⟨x, back, rfl⟩

theorem lossless_iff_of_read {y : α} (back : read (write x) = .ok y) :
    Lossless same write read x ↔ same y x := by
  constructor
  · rintro ⟨other, again, alike⟩
    rw [back] at again
    cases again
    exact alike
  · intro alike
    exact ⟨y, back, alike⟩

theorem not_lossless_of_error {error : ε} (refused : read (write x) = .error error) :
    ¬ Lossless same write read x := by
  rintro ⟨y, back, _⟩
  rw [refused] at back
  cases back

end

/-! ## Causal inputs in the order of their products -/

def SourceRevisionClaims.CausalInputsSorted (claims : SourceRevisionClaims) : Prop :=
  claims.val.causalInputRevisions.Pairwise fun a b => a.val.productId ≤ b.val.productId

instance (claims : SourceRevisionClaims) : Decidable claims.CausalInputsSorted :=
  inferInstanceAs (Decidable (List.Pairwise _ _))

def SourceRef.CausalInputsSorted (r : SourceRef) : Prop :=
  ∀ claims ∈ r.val.revisionClaims, claims.CausalInputsSorted

def IdeaEvidencePacket.CausalInputsSorted (p : IdeaEvidencePacket) : Prop :=
  (∀ r ∈ p.val.sourceRefs, r.CausalInputsSorted) ∧
    ∀ r ∈ p.val.lineageRef.val.sourceRefs, r.CausalInputsSorted

theorem SourceRevisionClaims.causalSorted_eq_iff {claims : SourceRevisionClaims} :
    claims.causalSorted = claims ↔ claims.CausalInputsSorted := by
  constructor
  · intro same
    have sorted := List.pairwise_insertionSort
      (fun a b : CausalInputRevision => a.val.productId ≤ b.val.productId)
      claims.val.causalInputRevisions
    have inputs := congrArg (fun claims => claims.val.causalInputRevisions) same
    simp only [SourceRevisionClaims.causalSorted] at inputs
    rwa [inputs] at sorted
  · intro sorted
    have inputs : claims.val.causalInputRevisions.insertionSort
        (fun a b => a.val.productId ≤ b.val.productId) = claims.val.causalInputRevisions :=
      List.Pairwise.insertionSort_eq sorted
    apply Checked.ext
    simp only [SourceRevisionClaims.causalSorted, inputs]

/-- The offsets of its times play no part in whether a reference is read back. -/
theorem SourceRef.causalSorted_inUtc_iff {r : SourceRef} :
    r.causalSorted.inUtc = r.inUtc ↔ r.CausalInputsSorted := by
  constructor
  · intro same claims own
    have claimed := congrArg (fun r => r.val.revisionClaims) same
    simp only [SourceRef.causalSorted, SourceRef.inUtc, Option.mem_def.mp own,
      Option.map_some, Option.some.injEq] at claimed
    exact SourceRevisionClaims.causalSorted_eq_iff.mp claimed
  · intro sorted
    have claimed : r.val.revisionClaims.map SourceRevisionClaims.causalSorted =
        r.val.revisionClaims := by
      cases own : r.val.revisionClaims with
      | none => rfl
      | some claims =>
          rw [Option.map_some, SourceRevisionClaims.causalSorted_eq_iff.mpr (sorted claims own)]
    apply Checked.ext
    simp only [SourceRef.causalSorted, SourceRef.inUtc, claimed]

theorem sourceRefs_causalSorted_inUtc_iff {sourceRefs : List SourceRef} :
    (sourceRefs.map SourceRef.causalSorted).map SourceRef.inUtc = sourceRefs.map SourceRef.inUtc ↔
      ∀ r ∈ sourceRefs, r.CausalInputsSorted := by
  rw [List.map_map, List.map_inj_left]
  simp only [Function.comp_apply, SourceRef.causalSorted_inUtc_iff]

theorem IdeaEvidencePacket.causalSorted_inUtc_iff {p : IdeaEvidencePacket} :
    p.causalSorted.inUtc = p.inUtc ↔ p.CausalInputsSorted := by
  constructor
  · intro same
    have sources := congrArg (fun p => p.val.sourceRefs) same
    have lineage := congrArg (fun p => p.val.lineageRef.val.sourceRefs) same
    exact ⟨sourceRefs_causalSorted_inUtc_iff.mp sources,
      sourceRefs_causalSorted_inUtc_iff.mp lineage⟩
  · intro ⟨sources, lineage⟩
    have lineageRef : p.val.lineageRef.causalSorted.inUtc = p.val.lineageRef.inUtc := by
      apply Checked.ext
      simp only [LineageRef.causalSorted, LineageRef.inUtc,
        sourceRefs_causalSorted_inUtc_iff.mpr lineage]
    apply Checked.ext
    simp only [IdeaEvidencePacket.causalSorted, IdeaEvidencePacket.inUtc,
      IdeaEvidencePacketFields.inUtc, lineageRef, sourceRefs_causalSorted_inUtc_iff.mpr sources]

theorem IdeaCandidate.causalSorted_equals_iff {c : IdeaCandidate} :
    c.causalSorted.equals c = true ↔ c.val.evidencePacket.CausalInputsSorted := by
  rw [IdeaCandidate.equals_iff, ← IdeaEvidencePacket.causalSorted_inUtc_iff]
  constructor
  · intro same
    exact congrArg (fun c => c.val.evidencePacket) same
  · intro packet
    apply Checked.ext
    simp only [IdeaCandidate.causalSorted, IdeaCandidate.inUtc, packet]

section
variable [Sha256]

/-! ## Candidates and submissions -/

theorem candidate_lossless_iff {c : IdeaCandidate} (representable : c.Representable) :
    Lossless (fun back c => back.equals c = true) candidateToJson candidateFromJson c ↔
      c.val.evidencePacket.CausalInputsSorted ∧ ∀ s ∈ c.val.score, s.PolicyKnown := by
  by_cases known : ∀ s ∈ c.val.score, s.PolicyKnown
  · rw [lossless_iff_of_read (candidateFromJson_toJson representable known),
      IdeaCandidate.causalSorted_equals_iff]
    exact (and_iff_left known).symm
  · have unread : ¬ Lossless (fun back c => back.equals c = true) candidateToJson
        candidateFromJson c := by
      simp only [not_forall] at known
      obtain ⟨s, scored, unknown⟩ := known
      exact not_lossless_of_error (candidateFromJson_unknown representable scored unknown)
    exact iff_of_false unread fun both => known both.2

theorem submission_lossless_iff {record : DownstreamSubmissionRecord}
    (representable : record.Representable) :
    Lossless Eq downstreamSubmissionRow downstreamSubmissionFromRow record ↔ record.IdsShown := by
  constructor
  · intro lossless
    by_contra hidden
    obtain ⟨error, refused⟩ := downstreamSubmissionFromRow_refused representable hidden
    exact not_lossless_of_error refused lossless
  · intro shown
    exact lossless_of_read (downstreamSubmissionFromRow_row representable shown)

/-- What a reload gives back of each kind of record whose times and numbers are
values of Python. -/
theorem codecs_lossless_iff :
    (∀ c : IdeaCandidate, c.Representable →
      (Lossless (fun back c => back.equals c = true) candidateToJson candidateFromJson c ↔
        c.val.evidencePacket.CausalInputsSorted ∧ ∀ s ∈ c.val.score, s.PolicyKnown)) ∧
    (∀ d : GovernedReviewDecision, d.Representable →
      Lossless Eq reviewDecisionToJson reviewDecisionFromJson d) ∧
    (∀ e : GovernedFeedbackEvent, e.Representable →
      Lossless Eq feedbackEventToJson feedbackEventFromJson e) ∧
    (∀ g : ReviewAuthorityGrant, g.Representable →
      Lossless Eq reviewAuthorityGrantToJson reviewAuthorityGrantFromJson g) ∧
    (∀ i : GovernedConversionIntent, i.Representable →
      Lossless Eq conversionIntentToJson conversionIntentFromJson i) ∧
    (∀ o : GovernedConversionOutcome, o.Representable →
      Lossless Eq conversionOutcomeToJson conversionOutcomeFromJson o) ∧
    (∀ p : GovernedReportEvidencePack, p.Representable →
      Lossless Eq reportEvidencePackToJson reportEvidencePackFromJson p) ∧
    (∀ record : DownstreamSubmissionRecord, record.Representable →
      (Lossless Eq downstreamSubmissionRow downstreamSubmissionFromRow record ↔
        record.IdsShown)) := by
  refine ⟨fun _ => candidate_lossless_iff, ?_, ?_, ?_, ?_, ?_, ?_, fun _ => submission_lossless_iff⟩
  · intro d representable
    exact lossless_of_read (reviewDecisionFromJson_toJson representable)
  · intro e representable
    exact lossless_of_read (feedbackEventFromJson_toJson representable)
  · intro g representable
    exact lossless_of_read (reviewAuthorityGrantFromJson_toJson representable)
  · intro i representable
    exact lossless_of_read (conversionIntentFromJson_toJson representable)
  · intro o representable
    exact lossless_of_read (conversionOutcomeFromJson_toJson representable)
  · intro p representable
    exact lossless_of_read (reportEvidencePackFromJson_toJson representable)

end

/-! ## A candidate and a submission that are not read back -/

/-- A source that lists its causal inputs as its owner does. -/
def sampleUnsortedSource : SourceRef where
  val :=
    { sampleSourceRef.val with
      revisionClaims := some
        ⟨{ snapshotId := some "snapshot-1", reconciliationPosture := .complete
           causalInputRevisions :=
            [⟨{ productId := "transactions", sourceRevision := "r2" }, by decide⟩,
             ⟨{ productId := "cash", sourceRevision := "r1" }, by decide⟩] },
          by decide +kernel⟩ }
  valid := by decide +kernel

def sampleUnsorted : IdeaCandidate where
  val :=
    { (sampleCandidate false).val with
      evidencePacket :=
        ⟨{ sampleEvidencePacket.val with sourceRefs := [sampleUnsortedSource] },
          by decide +kernel⟩ }
  valid := by decide +kernel

/-- A score under a policy of its own. -/
def sampleScore : IdeaScore where
  val :=
    { policyVersion := "local-score-policy", score := 50, reasonCodes := [.highCashRatio]
      contributions :=
        [⟨{ component := .materiality, inputScore := 50, weight := 1, contribution := 50 },
          by decide +kernel⟩] }
  valid := by decide +kernel

def sampleScored : IdeaCandidate where
  val := { (sampleCandidate false).val with score := some sampleScore }
  valid := by decide +kernel

/-- The report owner names the render job with a blank. -/
def sampleBlankReceipt : DownstreamSubmissionOwnerReceipt where
  val :=
    { sampleReceipt.val with
      reportMaterialization := some
        ⟨{ sampleMaterialization.val with
            createsRenderedOutput := true, renderJobId := some " " }, by decide⟩ }
  valid := by decide

theorem sampleUnsorted_representable : sampleUnsorted.Representable where
  evidencePacket :=
    { sourceRefs := by
        intro r member
        rw [List.mem_singleton.mp member]
        decide
      lineageRefs := by
        intro r member
        rw [List.mem_singleton.mp member]
        decide
      createdAtUtc := by decide +kernel
      applicabilityExpiresAtUtc := nofun }
  score := nofun
  createdAtUtc := by decide +kernel
  updatedAtUtc := by decide +kernel

theorem sampleEvidencePacket_representable : sampleEvidencePacket.Representable where
  sourceRefs := by
    intro r member
    rw [List.mem_singleton.mp member]
    decide
  lineageRefs := by
    intro r member
    rw [List.mem_singleton.mp member]
    decide
  createdAtUtc := by decide
  applicabilityExpiresAtUtc := nofun

theorem sampleScored_representable : sampleScored.Representable where
  evidencePacket := sampleEvidencePacket_representable
  score := by
    rintro s ⟨⟩
    refine ⟨⟨0, by decide⟩, ?_, ⟨0, by decide⟩⟩
    intro c member
    rw [List.mem_singleton.mp member]
    exact ⟨⟨0, by decide⟩, ⟨0, by decide⟩, ⟨0, by decide⟩⟩
  createdAtUtc := by decide
  updatedAtUtc := by decide

section Sample

local instance codecSha256 : Sha256 := submissionDigests

def sampleBlankRun : SubmissionStore :=
  SubmissionStore.run Dict.empty
    [.claim sampleClaim,
     .reconcile "downstream-submission-5cff184318e60f174e6edafa"
      { sampleReconcile with ownerReceipt := some sampleBlankReceipt }]

set_option maxRecDepth 10000 in
theorem sampleBlankRun_stored :
    (sampleBlankRun.get? "tenant-a\x00key-1").any (fun record =>
      (record.val.auditHistory.all fun entry => decide entry.val.occurredAtUtc.InRange) &&
        record.val.ownerReceipt.any fun receipt =>
          receipt.val.reportMaterialization.any fun m => !decide m.IdsShown) = true := by
  decide +kernel

theorem sampleBlank_hidden : ∃ record, sampleBlankRun.get? "tenant-a\x00key-1" = some record ∧
    record.Representable ∧ ¬ record.IdsShown := by
  obtain ⟨record, stored, reads⟩ := (Option.any_eq_true _ _).mp sampleBlankRun_stored
  simp only [Bool.and_eq_true, List.all_eq_true, decide_eq_true_eq, Option.any_eq_true,
    Bool.not_eq_true', decide_eq_false_iff_not] at reads
  obtain ⟨representable, receipt, carried, m, held, hidden⟩ := reads
  exact ⟨record, stored, representable, fun shown => hidden (shown receipt carried m held)⟩

/-- A candidate whose causal inputs are not sorted comes back as another, one
scored under a policy of its own and a submission with a blank id do not come back. -/
theorem codecs_lose_records :
    ¬ Lossless (fun back c => back.equals c = true) candidateToJson candidateFromJson
      sampleUnsorted ∧
    ¬ Lossless (fun back c => back.equals c = true) candidateToJson candidateFromJson
      sampleScored ∧
    ∃ record, sampleBlankRun.get? "tenant-a\x00key-1" = some record ∧
      ¬ Lossless Eq downstreamSubmissionRow downstreamSubmissionFromRow record := by
  refine ⟨?_, ?_, ?_⟩
  · rw [candidate_lossless_iff sampleUnsorted_representable]
    intro ⟨sorted, _⟩
    have inputs := sorted.1 sampleUnsortedSource (List.mem_singleton_self _) _ rfl
    exact absurd inputs (by decide +kernel)
  · rw [candidate_lossless_iff sampleScored_representable]
    intro ⟨_, known⟩
    exact absurd (known sampleScore rfl) (by decide)
  · obtain ⟨record, stored, representable, hidden⟩ := sampleBlank_hidden
    exact ⟨record, stored, (submission_lossless_iff representable).not.mpr hidden⟩

theorem codecs_lossless_iff_sample :
    (Lossless (fun back c => back.equals c = true) candidateToJson candidateFromJson
      sampleUnsorted ↔
        sampleUnsorted.val.evidencePacket.CausalInputsSorted ∧
          ∀ s ∈ sampleUnsorted.val.score, s.PolicyKnown) ∧
    ∃ record, sampleBlankRun.get? "tenant-a\x00key-1" = some record ∧
      (Lossless Eq downstreamSubmissionRow downstreamSubmissionFromRow record ↔
        record.IdsShown) := by
  obtain ⟨candidates, _, _, _, _, _, _, submissions⟩ := codecs_lossless_iff
  obtain ⟨record, stored, representable, _⟩ := sampleBlank_hidden
  exact ⟨candidates sampleUnsorted sampleUnsorted_representable,
    record, stored, submissions record representable⟩

end Sample

end LotusIdea

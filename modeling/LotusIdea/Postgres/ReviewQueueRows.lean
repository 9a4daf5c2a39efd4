import LotusIdea.Postgres.ReviewQueueTables

/-!
# The rows of the queue against the records

The row that the queries build for a stored record says what the record says, so
the predicates of a page select the candidates that no rule of the queue excludes.
-/

set_option autoImplicit false

namespace LotusIdea

open Json Sql

/-! ## The row of a record -/

/-- Records as a store holds them: of distinct candidates, and read back unchanged. -/
structure StoredRecords [Sha256] (records : List CandidatePersistenceRecord) : Prop where
  distinct : CandidatesDistinct records
  candidates : ∀ r ∈ records, r.val.candidate.Representable
  readBack : ∀ r ∈ records,
    candidateFromJson (candidateToJson r.val.candidate) = .ok r.val.candidate
  reviewDecisions : ∀ r ∈ records, ∀ d ∈ r.val.reviewDecisions, d.Representable

section
variable [Sha256] {records : List CandidatePersistenceRecord} {r : CandidatePersistenceRecord}
  {evaluatedAtUtc : DateTime}

/-- The row of `base` for a record. -/
def CandidatePersistenceRecord.queueRow (r : CandidatePersistenceRecord)
    (evaluatedAtUtc : DateTime) : ReviewQueueRow :=
  ⟨r.write.row, (r.latestApplicableDecision evaluatedAtUtc).map r.reviewDecisionRow⟩

theorem row_createdAtUtc (representable : r.val.candidate.Representable) :
    r.write.row.createdAtUtc = some r.val.candidate.val.createdAtUtc := by
  have created := timestamptz_isoformat representable.createdAtUtc
  simpa [CandidateRow.createdAtUtc, CandidateRow.text, CandidateWrite.row,
    CandidatePersistenceRecord.write, candidateToJson, arrowText, ofTime] using created

theorem tables_materialStartedAt (distinct : CandidatesDistinct records) (member : r ∈ records)
    (representable : r.val.candidate.Representable) :
    (reviewQueueTables records).materialStartedAt r.write.row = some r.materialStartedAt := by
  have own : (reviewQueueTables records).versionHistory.filter (fun history =>
      history.candidateId = r.write.row.candidateId ∧
        history.materialVersion = r.write.row.materialVersion) =
      (r.val.versionHistory.map r.versionHistoryRow).filter (fun history =>
        history.candidateId = r.write.row.candidateId ∧
          history.materialVersion = r.write.row.materialVersion) := by
    refine filter_flatMap_owned _ VersionHistoryRow.candidateId ?_ distinct member ?_
    · rintro a _ b brought
      obtain ⟨entry, _, rfl⟩ := List.mem_map.mp brought
      rfl
    · intro b holds
      exact (of_decide_eq_true holds).1
  have recorded : ((r.val.versionHistory.map r.versionHistoryRow).filter (fun history =>
        history.candidateId = r.write.row.candidateId ∧
          history.materialVersion = r.write.row.materialVersion)).map
        VersionHistoryRow.recordedAtUtc =
      (r.val.versionHistory.filter fun entry =>
        entry.val.materialVersion = r.val.candidate.val.identity.val.materialVersion).map
        fun entry => entry.val.recordedAtUtc := by
    simp [List.filter_map, Function.comp_def, CandidatePersistenceRecord.versionHistoryRow,
      CandidatePersistenceRecord.write, CandidateWrite.row]
  rw [ReviewQueueTables.materialStartedAt, own, row_createdAtUtc representable,
    CandidatePersistenceRecord.materialStartedAt, ← recorded, coalesce_default]

/-- The latest review that the join finds is the record's latest applicable decision. -/
theorem tables_latestReview (distinct : CandidatesDistinct records) (member : r ∈ records)
    (representable : r.val.candidate.Representable) :
    (reviewQueueTables records).latestReview r.write.row evaluatedAtUtc =
      (r.latestApplicableDecision evaluatedAtUtc).map r.reviewDecisionRow := by
  have own : (reviewQueueTables records).reviewDecisions.filter (fun review =>
      conj
        [equal (some review.candidateId) (some r.write.row.candidateId),
         notAfter (some review.acceptedAtUtc) (some evaluatedAtUtc),
         notAfter ((reviewQueueTables records).materialStartedAt r.write.row)
          (some review.acceptedAtUtc)] = some true) =
      (r.val.reviewDecisions.filter fun decision =>
        r.materialStartedAt ≤ decision.val.acceptedAtUtc ∧
          decision.val.acceptedAtUtc ≤ evaluatedAtUtc).map r.reviewDecisionRow := by
    rw [tables_materialStartedAt distinct member representable]
    refine (filter_flatMap_owned _ ReviewDecisionRow.candidateId ?_ distinct member ?_).trans ?_
    · rintro a _ b brought
      obtain ⟨decision, _, rfl⟩ := List.mem_map.mp brought
      rfl
    · intro b holds
      simp only [decide_eq_true_eq, conj_cons_true, equal_some, Option.some.injEq] at holds
      exact holds.1
    · rw [List.filter_map]
      congr 1
      refine List.filter_congr fun decision _ => ?_
      rw [Function.comp_apply, decide_eq_decide]
      simp [CandidatePersistenceRecord.reviewDecisionRow, CandidatePersistenceRecord.write,
        CandidateWrite.row, DateTime.le_def, and_comm]
  rw [ReviewQueueTables.latestReview, own, CandidatePersistenceRecord.latestApplicableDecision]
  simp only [page, List.drop_zero, List.head?_take, orderBy_map, List.head?_map]
  rw [← head?_orderBy_desc]
  rfl

theorem tables_joined (stored : StoredRecords records) (member : r ∈ records) :
    (reviewQueueTables records).joined evaluatedAtUtc r.write.row = r.queueRow evaluatedAtUtc := by
  rw [ReviewQueueTables.joined, CandidatePersistenceRecord.queueRow,
    tables_latestReview stored.distinct member (stored.candidates r member)]

theorem tables_base (stored : StoredRecords records) {audience : ReviewQueueAudience} :
    (reviewQueueTables records).base audience evaluatedAtUtc =
      (records.filter fun r => r.write.row.queueBase evaluatedAtUtc audience = some true).map
        fun r => r.queueRow evaluatedAtUtc := by
  have scanned : (reviewQueueTables records).candidates = records.map fun r => r.write.row := rfl
  simp only [ReviewQueueTables.base, scanned, List.filter_map, List.map_map, Function.comp_def]
  exact List.map_congr_left fun r listed => tables_joined stored (List.mem_of_mem_filter listed)

/-! ## What the row says -/

theorem queueRow_lifecycleStatus : (r.queueRow evaluatedAtUtc).candidate.text "lifecycle_status" =
    some r.val.candidate.val.lifecycleStatus.value := by
  simp [CandidatePersistenceRecord.queueRow, CandidateRow.text, CandidateWrite.row,
    CandidatePersistenceRecord.write, candidateToJson, arrowText, ofMember, PyEnum.value]

theorem queueRow_reviewPosture : (r.queueRow evaluatedAtUtc).candidate.text "review_posture" =
    some r.val.candidate.val.reviewPosture.value := by
  simp [CandidatePersistenceRecord.queueRow, CandidateRow.text, CandidateWrite.row,
    CandidatePersistenceRecord.write, candidateToJson, arrowText, ofMember, PyEnum.value]

theorem row_suppressionReason : r.write.row.text "suppression_reason" =
    r.val.candidate.val.suppressionReason.map SuppressionReason.value := by
  cases reason : r.val.candidate.val.suppressionReason with
  | none =>
      simp [CandidateRow.text, CandidateWrite.row, CandidatePersistenceRecord.write,
        candidateToJson, arrowText, ofOption, reason]
  | some reason_ =>
      simp [CandidateRow.text, CandidateWrite.row, CandidatePersistenceRecord.write,
        candidateToJson, arrowText, ofOption, ofMember, PyEnum.value, reason]

theorem queueRow_createdAtUtc : (r.queueRow evaluatedAtUtc).queueCreatedAtUtc =
    some r.val.candidate.val.createdAtUtc.isoformat := by
  simp [ReviewQueueRow.queueCreatedAtUtc, CandidatePersistenceRecord.queueRow, CandidateRow.text,
    CandidateWrite.row, CandidatePersistenceRecord.write, candidateToJson, arrowText, ofTime]

theorem queueRow_score : (r.queueRow evaluatedAtUtc).part "score" =
    some (ofOption scoreToJson r.val.candidate.val.score) := by
  simp [ReviewQueueRow.part, CandidatePersistenceRecord.queueRow, CandidateWrite.row,
    CandidatePersistenceRecord.write, candidateToJson]

theorem queueRow_accessScope : (r.queueRow evaluatedAtUtc).part "access_scope" =
    some (ofOption accessScopePayload r.val.candidate.val.accessScope) := by
  simp [ReviewQueueRow.part, CandidatePersistenceRecord.queueRow, CandidateWrite.row,
    CandidatePersistenceRecord.write, candidateToJson]

theorem queueRow_evidencePacket : (r.queueRow evaluatedAtUtc).part "evidence_packet" =
    some (evidencePacketToJson r.val.candidate.val.evidencePacket) := by
  simp [ReviewQueueRow.part, CandidatePersistenceRecord.queueRow, CandidateWrite.row,
    CandidatePersistenceRecord.write, candidateToJson]

theorem queueRow_queueScore (representable : r.val.candidate.Representable) :
    (r.queueRow evaluatedAtUtc).queueScore =
      r.val.candidate.val.score.map fun score => score.val.score := by
  rw [ReviewQueueRow.queueScore, queueRow_score]
  cases scored : r.val.candidate.val.score with
  | none => rfl
  | some score =>
      have read := numeric_text (representable.score score scored).score
      simpa [ofOption, scoreToJson, arrowText, ofDecimal] using read

theorem queueRow_scorePolicyVersion : (r.queueRow evaluatedAtUtc).scorePolicyVersion =
    r.val.candidate.val.score.map fun score => score.val.policyVersion := by
  rw [ReviewQueueRow.scorePolicyVersion, queueRow_score]
  cases r.val.candidate.val.score with
  | none => rfl
  | some score => simp [ofOption, scoreToJson, arrowText]

theorem queueRow_applicabilityExpiresAtUtc (representable : r.val.candidate.Representable) :
    (r.queueRow evaluatedAtUtc).applicabilityExpiresAtUtc =
      r.val.candidate.val.evidencePacket.val.applicabilityExpiresAtUtc := by
  rw [ReviewQueueRow.applicabilityExpiresAtUtc, queueRow_evidencePacket]
  cases expires : r.val.candidate.val.evidencePacket.val.applicabilityExpiresAtUtc with
  | none => simp [evidencePacketToJson, arrowText, ofOption, expires, timestamptz]
  | some expiry =>
      have read := timestamptz_isoformat
        (representable.evidencePacket.applicabilityExpiresAtUtc expiry expires)
      simpa [evidencePacketToJson, arrowText, ofOption, ofTime, expires] using read

theorem queueRow_supportability : (r.queueRow evaluatedAtUtc).supportability =
    some r.val.candidate.val.evidencePacket.val.supportability.value := by
  rw [ReviewQueueRow.supportability, queueRow_evidencePacket]
  simp [evidencePacketToJson, arrowText, ofMember, PyEnum.value]

/-- The stored scope under a field of the filter. -/
theorem queueRow_scopeField (field : String) :
    arrowText ((r.queueRow evaluatedAtUtc).part "access_scope") field =
      r.val.candidate.val.accessScope.bind fun scope =>
        arrowText (some (accessScopePayload scope)) field := by
  rw [queueRow_accessScope]
  cases r.val.candidate.val.accessScope <;> rfl

/-! ## The predicates -/

theorem row_queueBase (representable : r.val.candidate.Representable)
    (audience : ReviewQueueAudience) :
    r.write.row.queueBase evaluatedAtUtc audience = some true ↔
      r.val.candidate.val.createdAtUtc ≤ evaluatedAtUtc ∧
        (r.val.candidate.val.reviewPosture = audience.requiredPosture ∨
          r.val.candidate.val.suppressionReason.isSome = true) := by
  have posture : equal (some r.write.row.reviewPosture) (some audience.requiredPosture.value) =
      some true ↔ r.val.candidate.val.reviewPosture = audience.requiredPosture :=
    equal_value r.val.candidate.val.reviewPosture audience.requiredPosture
  rw [CandidateRow.queueBase, row_createdAtUtc representable, row_suppressionReason]
  simp only [conj_cons_true, conj_nil, disj_cons_true, disj_nil, posture, notAfter_some, isNotNull,
    Option.isSome_map, Option.some.injEq, decide_eq_true_eq, and_true, Bool.false_eq_true, or_false]
  rfl

theorem queueRow_stateCompatible : (r.queueRow evaluatedAtUtc).stateCompatible = some true := by
  have compatible : r.val.candidate.val.reviewPosture ∈
      allowedReviewPosturesByLifecycle r.val.candidate.val.lifecycleStatus := by
    simpa [candidateStateIsCompatible] using r.val.candidate.compatible
  rw [ReviewQueueRow.stateCompatible, queueRow_lifecycleStatus, queueRow_reviewPosture]
  simp only [conj_cons_true, conj_nil, disj_true, equal_some, Option.some.injEq,
    decide_eq_true_eq, and_true]
  refine ⟨rfl, rfl, _,
    List.mem_map.mpr ⟨r.val.candidate.val.lifecycleStatus, PyEnum.complete _, rfl⟩, ?_⟩
  simp only [conj_cons_true, conj_nil, oneOf_some, Option.some.injEq, decide_eq_true_eq, and_true]
  exact ⟨rfl, List.mem_map.mpr ⟨_, compatible, rfl⟩⟩

theorem queueRow_snoozed
    (representable : ∀ d ∈ r.val.reviewDecisions, d.Representable) :
    (r.queueRow evaluatedAtUtc).snoozed evaluatedAtUtc = some true ↔
      (r.activeSnooze evaluatedAtUtc).isSome = true := by
  rw [ReviewQueueRow.snoozed, ReviewQueueRow.latestReviewAction,
    ReviewQueueRow.latestSnoozedUntilUtc, CandidatePersistenceRecord.queueRow,
    CandidatePersistenceRecord.activeSnooze]
  cases latest : r.latestApplicableDecision evaluatedAtUtc with
  | none => simp
  | some decision =>
      have given : decision ∈ r.val.reviewDecisions := by
        rw [CandidatePersistenceRecord.latestApplicableDecision] at latest
        exact List.mem_of_mem_filter (List.argmax_mem latest)
      have action : decision.val.action.value = ReviewAction.snooze.value ↔
          decision.val.action = .snooze :=
        ⟨fun same => PyEnum.value_injective same, fun same => congrArg ReviewAction.value same⟩
      have until_ : timestamptz (arrowText (some (reviewDecisionToJson decision))
          "snoozed_until_utc") = decision.val.snoozedUntilUtc := by
        cases given_ : decision.val.snoozedUntilUtc with
        | none => simp [reviewDecisionToJson, arrowText, ofOption, given_, timestamptz]
        | some t =>
            have read := timestamptz_isoformat ((representable decision given).snoozedUntilUtc t given_)
            simpa [reviewDecisionToJson, arrowText, ofOption, ofTime, given_] using read
      simp only [Option.map_some, Option.bind_some, CandidatePersistenceRecord.reviewDecisionRow,
        until_, CandidatePersistenceRecord.snoozeOf, conj_cons_true, conj_nil, equal_some,
        Option.some.injEq, decide_eq_true_eq, action, and_true]
      by_cases snoozes : decision.val.action = .snooze
      · cases decision.val.snoozedUntilUtc with
        | none => simp [snoozes]
        | some t => simp [snoozes, DateTime.lt_def, Option.filter]
      · simp [snoozes]

omit [Sha256] in
/-- The scope is stored under the fields that the filter asks for. -/
theorem accessScopePayload_fields (scope : ReviewAccessScope) :
    arrowText (some (accessScopePayload scope)) "tenant_id" = some scope.val.tenantId ∧
      arrowText (some (accessScopePayload scope)) "book_id" = some scope.val.bookId ∧
      arrowText (some (accessScopePayload scope)) "portfolio_id" = some scope.val.portfolioId ∧
      arrowText (some (accessScopePayload scope)) "client_id" = some scope.val.clientId := by
  simp [accessScopePayload, arrowText]

omit [Sha256] in
theorem fields_empty {f : QueueAccessScopeFilter} : f.fields = [] ↔ f.isEmpty = true := by
  simp [QueueAccessScopeFilter.fields, QueueAccessScopeFilter.isEmpty, and_assoc]

theorem queueRow_scopeCovered (f : QueueAccessScopeFilter) :
    (∀ field ∈ f.fields, oneOf (arrowText ((r.queueRow evaluatedAtUtc).part "access_scope") field.1)
        field.2 = some true) ↔
      f.covers r.val.candidate.val.accessScope = true := by
  simp only [queueRow_scopeField]
  cases r.val.candidate.val.accessScope with
  | none =>
      simp only [Option.bind_none, oneOf_none, QueueAccessScopeFilter.covers, Option.any_none,
        Bool.or_false, ← fields_empty, List.eq_nil_iff_forall_not_mem]
      exact ⟨fun none_ field listed => (nomatch none_ field listed),
        fun none_ field listed => absurd listed (none_ field)⟩
  | some scope =>
      obtain ⟨tenant, book, portfolio, client⟩ := accessScopePayload_fields scope
      have matched (expected : List String) (actual : String) :
          ((!expected.isEmpty) = true → actual ∈ expected) ↔
            QueueAccessScopeFilter.matchesField expected actual = true := by
        cases expected <;> simp [QueueAccessScopeFilter.matchesField]
      have covers : f.covers (some scope) = true ↔
          QueueAccessScopeFilter.matchesField f.tenantId scope.val.tenantId = true ∧
            QueueAccessScopeFilter.matchesField f.bookId scope.val.bookId = true ∧
            QueueAccessScopeFilter.matchesField f.portfolioId scope.val.portfolioId = true ∧
            QueueAccessScopeFilter.matchesField f.clientId scope.val.clientId = true := by
        simp only [QueueAccessScopeFilter.covers, QueueAccessScopeFilter.isEmpty, Option.any_some,
          Bool.or_eq_true, Bool.and_eq_true, and_assoc]
        refine or_iff_right_of_imp ?_
        rintro ⟨tenants, books, portfolios, clients⟩
        simp [QueueAccessScopeFilter.matchesField, tenants, books, portfolios, clients]
      simp only [covers, ← matched, QueueAccessScopeFilter.fields, List.mem_filter, and_imp,
        List.forall_mem_cons, List.not_mem_nil, false_implies, implies_true, and_true,
        Option.bind_some, tenant, book, portfolio, client, oneOf_some, Option.some.injEq,
        decide_eq_true_eq]

/-- The predicates of a page hold of the row of a record exactly when no rule of
the queue excludes its candidate. -/
theorem queueRow_eligible_iff (representable : r.val.candidate.Representable)
    (decisions : ∀ d ∈ r.val.reviewDecisions, d.Representable) {policy : ReviewQueuePolicy}
    {accessScopeFilter : Option QueueAccessScopeFilter} {versions : List String}
    (rankable : ∀ version, version ∈ versions ↔ policy.acceptsScorePolicy version = true)
    {snoozes : Dict String QueueSnooze}
    (indexed : snoozes.get? r.val.candidate.val.candidateId = r.activeSnooze evaluatedAtUtc) :
    (r.queueRow evaluatedAtUtc).eligible evaluatedAtUtc versions accessScopeFilter = some true ↔
      QueueEligible r.val.candidate snoozes accessScopeFilter policy evaluatedAtUtc := by
  have inScope : (∀ t ∈ (accessScopeFilter.elim [] fun filter =>
        filter.fields.map fun field =>
          oneOf (arrowText ((r.queueRow evaluatedAtUtc).part "access_scope") field.1) field.2),
        t = some true) ↔
      (accessScopeFilter.any fun filter => !filter.covers r.val.candidate.val.accessScope) =
        false := by
    cases accessScopeFilter with
    | none => simp
    | some f =>
        simp only [Option.elim_some, List.forall_mem_map, Option.any_some, Bool.not_eq_false']
        exact queueRow_scopeCovered f
  have applicable : coalesce [later (r.queueRow evaluatedAtUtc).applicabilityExpiresAtUtc
        (some evaluatedAtUtc), some true] = some true ↔
      ∀ expiry ∈ r.val.candidate.val.evidencePacket.val.applicabilityExpiresAtUtc,
        evaluatedAtUtc < expiry := by
    rw [queueRow_applicabilityExpiresAtUtc representable]
    cases r.val.candidate.val.evidencePacket.val.applicabilityExpiresAtUtc with
    | none => simp
    | some expiry => simp [DateTime.lt_def]
  have supported : negate (equal (r.queueRow evaluatedAtUtc).supportability
        (some EvidenceSupportability.blocked.value)) = some true ↔
      r.val.candidate.val.evidencePacket.val.supportability ≠ .blocked := by
    rw [queueRow_supportability, negate_not_true _ rfl]
    exact not_congr (equal_value r.val.candidate.val.evidencePacket.val.supportability .blocked)
  have posture : negate (equal (some (r.queueRow evaluatedAtUtc).candidate.reviewPosture)
        (some ReviewPosture.suppressed.value)) = some true ↔
      r.val.candidate.val.reviewPosture ≠ .suppressed :=
    (negate_not_true _ rfl).trans
      (not_congr (equal_value r.val.candidate.val.reviewPosture .suppressed))
  have unsuppressed : isNull ((r.queueRow evaluatedAtUtc).candidate.text "suppression_reason") =
        some true ↔ r.val.candidate.val.suppressionReason = none := by
    rw [CandidatePersistenceRecord.queueRow, row_suppressionReason]
    simp [isNull]
  have reviewable : oneOf (some (r.queueRow evaluatedAtUtc).candidate.lifecycleStatus)
        (reviewableLifecycleStatuses.map IdeaLifecycleStatus.value) = some true ↔
      r.val.candidate.val.lifecycleStatus ∈ reviewableLifecycleStatuses :=
    oneOf_values r.val.candidate.val.lifecycleStatus _
  have awake : negate (coalesce [(r.queueRow evaluatedAtUtc).snoozed evaluatedAtUtc, some false]) =
        some true ↔ snoozes.get? r.val.candidate.val.candidateId = none := by
    have snoozed : (r.queueRow evaluatedAtUtc).snoozed evaluatedAtUtc = some true ↔
        (r.activeSnooze evaluatedAtUtc).isSome = true := queueRow_snoozed decisions
    rw [negate_true, coalesce_default, indexed, Option.some.injEq, ← Option.not_isSome_iff_eq_none,
      ← snoozed]
    cases (r.queueRow evaluatedAtUtc).snoozed evaluatedAtUtc with
    | none => simp
    | some b => cases b <;> simp
  have ranked : (isNotNull ((r.queueRow evaluatedAtUtc).part "score") = some true ∧
        oneOf (r.queueRow evaluatedAtUtc).scorePolicyVersion versions = some true) ↔
      ∃ score, r.val.candidate.val.score = some score ∧
        policy.acceptsScorePolicy score.val.policyVersion = true := by
    rw [queueRow_score, queueRow_scorePolicyVersion]
    cases r.val.candidate.val.score with
    | none => simp
    | some score => simp [isNotNull, rankable]
  rw [ReviewQueueRow.eligible, conj_true, List.forall_mem_append]
  simp only [List.forall_mem_cons, List.not_mem_nil, false_implies, implies_true, and_true,
    queueRow_stateCompatible, true_and, applicable, reviewable, posture, unsuppressed, awake,
    supported, inScope]
  constructor
  · rintro ⟨⟨inTime, status, shown, noReason, noSnooze, scored, accepted, evidence⟩, covered⟩
    exact ⟨covered, inTime, noSnooze, ⟨noReason, shown⟩, evidence, ranked.mp ⟨scored, accepted⟩,
      status⟩
  · rintro ⟨covered, inTime, noSnooze, ⟨noReason, shown⟩, evidence, accepted, status⟩
    obtain ⟨scored, accepted⟩ := ranked.mpr accepted
    exact ⟨⟨inTime, status, shown, noReason, noSnooze, scored, accepted, evidence⟩, covered⟩

end

end LotusIdea

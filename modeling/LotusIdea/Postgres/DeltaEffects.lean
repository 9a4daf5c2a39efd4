import LotusIdea.Foundation.Raising
import LotusIdea.Postgres.UnitOfWork

/-!
# What a delta writes

The inserts of one record append to that candidate's rows and to no other's; so the delta
of a mutation leaves the mutation's record behind it, and every other candidate as it was.
-/

set_option autoImplicit false

namespace LotusIdea

open KeyedTable (Owned valuesOf Grown)

section
variable [Sha256]

/-! ## Inserts -/

variable {t next : SnapshotTables} {candidateId : String}

theorem insertOwned_grown {α : Type} {name : String} {taken : String → DeltaError}
    {table grown : OwnedTable α} {rows : List (String × Owned String α)} {values : List α}
    (owners : ∀ row ∈ rows, row.2.owner = candidateId)
    (told : rows.map (fun row => row.2.value) = values)
    (ran : t.insertOwned name taken table rows = .ok grown) :
    Grown table grown candidateId values :=
  ⟨rows, KeyedTable.insertAll_entries ran, owners, told⟩

omit [Sha256] in
theorem identifiedRows_owner {α : Type} {identity : α → String} {values : List α} :
    ∀ row ∈ identifiedRows identity candidateId values, row.2.owner = candidateId := by
  intro row member
  obtain ⟨value, _, rfl⟩ := List.mem_map.mp member
  rfl

omit [Sha256] in
theorem identifiedRows_values {α : Type} (identity : α → String) (values : List α) :
    (identifiedRows identity candidateId values).map (fun row => row.2.value) = values := by
  rw [identifiedRows, List.map_map]
  exact List.map_id values

omit [Sha256] in
theorem numberedRows_owner {α : Type} {label : String} {start : ℕ} {values : List α} :
    ∀ row ∈ numberedRows label candidateId start values, row.2.owner = candidateId := by
  intro row member
  obtain ⟨index, _, rfl⟩ := List.mem_mapIdx.mp member
  rfl

omit [Sha256] in
theorem numberedRows_values {α : Type} (label : String) (start : ℕ) (values : List α) :
    (numberedRows label candidateId start values).map (fun row => row.2.value) = values := by
  refine List.ext_getElem (by simp [numberedRows]) ?_
  intro index _ _
  simp [numberedRows]

theorem insert_identified {α : Type} {name : String} {taken : String → DeltaError}
    {table grown : OwnedTable α} {identity : α → String} {values : List α}
    (ran : t.insertOwned name taken table (identifiedRows identity candidateId values) =
      .ok grown) : Grown table grown candidateId values :=
  insertOwned_grown identifiedRows_owner (identifiedRows_values identity values) ran

theorem insert_numbered {α : Type} {name label : String} {taken : String → DeltaError}
    {table grown : OwnedTable α} {start : ℕ} {values : List α}
    (ran : t.insertOwned name taken table (numberedRows label candidateId start values) =
      .ok grown) : Grown table grown candidateId values :=
  insertOwned_grown numberedRows_owner (numberedRows_values label start values) ran

theorem insert_identified_keyed {α : Type} {name : String} {taken : String → DeltaError}
    {table grown : OwnedTable α} {identity : α → String} {values : List α}
    (keyed : KeyedById identity table)
    (ran : t.insertOwned name taken table (identifiedRows identity candidateId values) =
      .ok grown) : KeyedById identity grown := by
  intro key row found
  rw [Dict.get?_eq_some_iff, KeyedTable.insertAll_entries ran, List.mem_append] at found
  rcases found with old | new
  · exact keyed key row (Dict.get?_eq_some_iff.mpr old)
  · obtain ⟨value, _, same⟩ := List.mem_map.mp new
    cases same
    rfl

/-- Rows go to a candidate that is there. -/
theorem insert_numbered_present {α : Type} {name label : String} {taken : String → DeltaError}
    {table grown : OwnedTable α} {start : ℕ} {values : List α}
    (ran : t.insertOwned name taken table (numberedRows label candidateId start values) =
      .ok grown) (some : values ≠ []) : (t.candidates.get? candidateId).isSome := by
  obtain ⟨value, rest, rfl⟩ := List.exists_cons_of_ne_nil some
  have first : (numberedKey label candidateId (start + 0), (⟨candidateId, value⟩ : Owned String α)) ∈
      numberedRows label candidateId start (value :: rest) := by
    rw [numberedRows, List.mapIdx_cons]
    exact List.mem_cons_self
  exact KeyedTable.insertAll_refers ran _ first

omit [Sha256] in
/-- Outcomes go to the candidate of their intents. -/
theorem insertConversionOutcomes_grown {intents : OwnedTable GovernedConversionIntent}
    {table grown : OwnedTable GovernedConversionOutcome}
    {outcomes : List GovernedConversionOutcome}
    (own : ∀ outcome ∈ outcomes, ∀ row,
      intents.get? outcome.val.conversionIntentId = some row → row.owner = candidateId)
    (ran : insertConversionOutcomes intents table outcomes = .ok grown) :
    Grown table grown candidateId outcomes ∧ ∀ outcome ∈ outcomes,
      (intents.get? outcome.val.conversionIntentId).map Owned.owner = some candidateId := by
  induction outcomes generalizing table with
  | nil =>
      cases ran
      refine ⟨.refl _ _, ?_⟩
      intro outcome member
      cases member
  | cons outcome rest ih =>
      rw [insertConversionOutcomes, List.foldlM_cons] at ran
      obtain ⟨middle, inserted, ran⟩ := Except.seq_returns.mp ran
      obtain ⟨grownRest, named⟩ := ih (fun other member => own other (by simp [member])) ran
      unfold insertConversionOutcome at inserted
      split at inserted
      · cases inserted
      obtain ⟨free, present, rfl⟩ := KeyedTable.insert_eq_ok.mp inserted
      obtain ⟨intent, found⟩ := Option.isSome_iff_exists.mp present
      have mine : intent.owner = candidateId := own outcome (by simp) intent found
      have owner : (intents.get? outcome.val.conversionIntentId).map Owned.owner =
          some candidateId := by rw [found, Option.map_some, mine]
      obtain ⟨rows, appended, owners, told⟩ := grownRest
      refine ⟨⟨(outcome.val.outcome.val.conversionOutcomeId,
        ⟨((intents.get? outcome.val.conversionIntentId).map Owned.owner).getD "", outcome⟩) :: rows,
        ?_, ?_, congrArg (outcome :: ·) told⟩, ?_⟩
      · rw [appended, Dict.entries_set_of_fresh _ free, List.append_assoc,
          List.singleton_append]
      · intro row member
        rcases List.mem_cons.mp member with rfl | later
        · simp [owner]
        · exact owners row later
      · intro other member
        rcases List.mem_cons.mp member with rfl | later
        · exact owner
        · exact named other later

/-! ## The lists of one candidate -/

/-- Everything appended to the tables of details is the candidate's. -/
structure DetailsGrown (t next : SnapshotTables) (candidateId : String) (tail : RecordLists) :
    Prop where
  versionHistory : Grown t.versionHistory next.versionHistory candidateId tail.versionHistory
  lifecycleHistory :
    Grown t.lifecycleHistory next.lifecycleHistory candidateId tail.lifecycleHistory
  auditEvents : Grown t.auditEvents next.auditEvents candidateId tail.auditEvents
  reviewDecisions : Grown t.reviewDecisions next.reviewDecisions candidateId tail.reviewDecisions
  feedbackEvents : Grown t.feedbackEvents next.feedbackEvents candidateId tail.feedbackEvents
  conversionIntents :
    Grown t.conversionIntents next.conversionIntents candidateId tail.conversionIntents
  conversionOutcomes :
    Grown t.conversionOutcomes next.conversionOutcomes candidateId tail.conversionOutcomes
  reportEvidencePacks :
    Grown t.reportEvidencePacks next.reportEvidencePacks candidateId tail.reportEvidencePacks
  aiLineageRecords :
    Grown t.aiLineageRecords next.aiLineageRecords candidateId tail.aiLineageRecords
  keyed : KeyedById (fun intent => intent.val.intent.val.conversionIntentId) t.conversionIntents →
    KeyedById (fun intent => intent.val.intent.val.conversionIntentId) next.conversionIntents
  /-- The outcomes' intents were the candidate's already, or are by now. -/
  named : ∀ outcome ∈ tail.conversionOutcomes,
    (next.conversionIntents.get? outcome.val.conversionIntentId).map Owned.owner =
      some candidateId

namespace DetailsGrown
variable {tail : RecordLists}

theorem own (grown : DetailsGrown t next candidateId tail) :
    next.listsOf candidateId = (t.listsOf candidateId).append tail := by
  simp only [SnapshotTables.listsOf, RecordLists.append, grown.versionHistory.own,
    grown.lifecycleHistory.own, grown.auditEvents.own, grown.reviewDecisions.own,
    grown.feedbackEvents.own, grown.conversionIntents.own, grown.conversionOutcomes.own,
    grown.reportEvidencePacks.own, grown.aiLineageRecords.own]

theorem other {second : String} (grown : DetailsGrown t next candidateId tail)
    (different : second ≠ candidateId) : next.listsOf second = t.listsOf second := by
  simp only [SnapshotTables.listsOf, grown.versionHistory.other different,
    grown.lifecycleHistory.other different, grown.auditEvents.other different,
    grown.reviewDecisions.other different, grown.feedbackEvents.other different,
    grown.conversionIntents.other different, grown.conversionOutcomes.other different,
    grown.reportEvidencePacks.other different, grown.aiLineageRecords.other different]

/-- The outcomes still belong to the candidates of their intents. -/
theorem outcomes (grown : DetailsGrown t next candidateId tail)
    (before : ∀ row ∈ t.conversionOutcomes.values,
      (t.conversionIntents.get? row.value.val.conversionIntentId).map Owned.owner =
        some row.owner) :
    ∀ row ∈ next.conversionOutcomes.values,
      (next.conversionIntents.get? row.value.val.conversionIntentId).map Owned.owner =
        some row.owner := by
  intro row member
  rcases grown.conversionOutcomes.mem_values member with old | ⟨owner, new⟩
  · obtain ⟨intent, found, same⟩ := Option.map_eq_some_iff.mp (before row old)
    rw [grown.conversionIntents.get?_kept found, Option.map_some, same]
  · rw [grown.named row.value new, owner]

end DetailsGrown

/-- The tables that hold no record are as they were. -/
structure SameAside (t next : SnapshotTables) : Prop where
  lifecycleControls : next.lifecycleControls = t.lifecycleControls
  idempotencyRecords : next.idempotencyRecords = t.idempotencyRecords
  outboxEvents : next.outboxEvents = t.outboxEvents
  submissions : next.submissions = t.submissions

theorem insertRecordDetails_grown {record : CandidatePersistenceRecord}
    (outcomes : record.val.conversionOutcomes = [])
    (ran : insertRecordDetails t record = .ok next) :
    DetailsGrown t next record.val.candidate.val.candidateId record.lists ∧
      next.candidates = t.candidates ∧ SameAside t next := by
  simp only [insertRecordDetails, outcomes] at ran
  obtain ⟨_, versions, ran⟩ := Except.seq_returns.mp ran
  obtain ⟨_, lifecycle, ran⟩ := Except.seq_returns.mp ran
  obtain ⟨_, audits, ran⟩ := Except.seq_returns.mp ran
  obtain ⟨_, reviews, ran⟩ := Except.seq_returns.mp ran
  obtain ⟨_, feedback, ran⟩ := Except.seq_returns.mp ran
  obtain ⟨_, intents, ran⟩ := Except.seq_returns.mp ran
  obtain ⟨_, none, ran⟩ := Except.seq_returns.mp ran
  obtain ⟨_, packs, ran⟩ := Except.seq_returns.mp ran
  obtain ⟨_, lineage, ran⟩ := Except.seq_returns.mp ran
  cases none
  cases ran
  refine ⟨⟨insert_identified versions, insert_numbered lifecycle, insert_numbered audits,
    insert_identified reviews, insert_identified feedback, insert_identified intents, ?_,
    insert_identified packs, insert_identified lineage,
    fun keyed => insert_identified_keyed keyed intents, ?_⟩, rfl, ⟨rfl, rfl, rfl, rfl⟩⟩
  · rw [CandidatePersistenceRecord.lists, outcomes]
    exact .refl _ _
  · intro outcome member
    rw [CandidatePersistenceRecord.lists, outcomes] at member
    cases member

/-! ## The delta of one record -/

/-- What the delta of a record inserts. -/
def recordTail (before after : CandidatePersistenceRecord) : RecordLists where
  versionHistory := after.val.versionHistory.drop before.val.versionHistory.length
  lifecycleHistory := after.val.lifecycleHistory.drop before.val.lifecycleHistory.length
  auditEvents := after.val.auditEvents.drop before.val.auditEvents.length
  reviewDecisions := newValues (fun decision => decision.val.reviewId)
    before.val.reviewDecisions after.val.reviewDecisions
  feedbackEvents := newValues (fun event => event.val.feedback.val.feedbackId)
    before.val.feedbackEvents after.val.feedbackEvents
  conversionIntents := newValues (fun intent => intent.val.intent.val.conversionIntentId)
    before.val.conversionIntents after.val.conversionIntents
  conversionOutcomes := newValues (fun outcome => outcome.val.outcome.val.conversionOutcomeId)
    before.val.conversionOutcomes after.val.conversionOutcomes
  reportEvidencePacks := newValues (fun pack => pack.val.reportEvidencePackId)
    before.val.reportEvidencePacks after.val.reportEvidencePacks
  aiLineageRecords := newValues (fun record => record.val.requestId)
    before.val.aiExplanationLineageRecords after.val.aiExplanationLineageRecords

/-- The candidate's row after the delta: replaced where the candidate changed, and then it
was as old as before. -/
def CandidateUpdated (t next : SnapshotTables) (before after : CandidatePersistenceRecord) :
    Prop :=
  after.val.candidate.equals before.val.candidate = true ∧ next.candidates = t.candidates ∨
  after.val.candidate.equals before.val.candidate = false ∧
    ∃ row, t.candidates.get? after.val.candidate.val.candidateId = some row ∧
      row.candidate.val.updatedAtUtc.instant = before.val.candidate.val.updatedAtUtc.instant ∧
      next.candidates = t.candidates.set after.val.candidate.val.candidateId
        ⟨after.val.candidate, after.val.evidenceHash, row.persistedAtUtc⟩

theorem updateCandidateRecord_returns {before after : CandidatePersistenceRecord}
    (ran : updateCandidateRecord t before after = .ok next) :
    ∃ row, t.candidates.get? after.val.candidate.val.candidateId = some row ∧
      row.candidate.val.updatedAtUtc.instant = before.val.candidate.val.updatedAtUtc.instant ∧
      next = { t with
        candidates := t.candidates.set after.val.candidate.val.candidateId
          ⟨after.val.candidate, after.val.evidenceHash, row.persistedAtUtc⟩ } := by
  simp only [updateCandidateRecord] at ran
  split at ran
  · cases ran
  rename_i row found
  split at ran
  · rename_i same
    cases ran
    exact ⟨row, found, same, rfl⟩
  · cases ran

theorem updateChangedCandidate_returns {before after : CandidatePersistenceRecord}
    (ran : updateChangedCandidate t before after = .ok next) :
    CandidateUpdated t next before after ∧
      ∃ candidates, next = { t with candidates := candidates } := by
  unfold updateChangedCandidate at ran
  split at ran
  · rename_i same
    cases ran
    exact ⟨Or.inl ⟨same, rfl⟩, t.candidates, rfl⟩
  · rename_i changed
    obtain ⟨row, found, fence, rfl⟩ := updateCandidateRecord_returns ran
    exact ⟨Or.inr ⟨by simpa using changed, row, found, fence, rfl⟩, _, rfl⟩

theorem writeRecordDelta_grown {before after : CandidatePersistenceRecord}
    (ran : writeRecordDelta t before after = .ok next)
    (own : ∀ outcome ∈ (recordTail before after).conversionOutcomes, ∀ row,
      t.conversionIntents.get? outcome.val.conversionIntentId = some row →
        row.owner = after.val.candidate.val.candidateId) :
    DetailsGrown t next after.val.candidate.val.candidateId (recordTail before after) ∧
      CandidateUpdated t next before after ∧ SameAside t next := by
  simp only [writeRecordDelta] at ran
  obtain ⟨_, reviews, ran⟩ := Except.seq_returns.mp ran
  obtain ⟨_, feedback, ran⟩ := Except.seq_returns.mp ran
  obtain ⟨_, outcomes, ran⟩ := Except.seq_returns.mp ran
  obtain ⟨middle, updated, ran⟩ := Except.seq_returns.mp ran
  obtain ⟨_, versions, ran⟩ := Except.seq_returns.mp ran
  obtain ⟨_, lifecycle, ran⟩ := Except.seq_returns.mp ran
  obtain ⟨_, audits, ran⟩ := Except.seq_returns.mp ran
  obtain ⟨_, intents, ran⟩ := Except.seq_returns.mp ran
  obtain ⟨_, packs, ran⟩ := Except.seq_returns.mp ran
  obtain ⟨_, lineage, ran⟩ := Except.seq_returns.mp ran
  cases ran
  obtain ⟨grownOutcomes, named⟩ := insertConversionOutcomes_grown own outcomes
  obtain ⟨changed, candidates, rfl⟩ := updateChangedCandidate_returns updated
  refine ⟨⟨insert_identified versions, insert_numbered lifecycle, insert_numbered audits,
    insert_identified reviews, insert_identified feedback, insert_identified intents,
    grownOutcomes, insert_identified packs, insert_identified lineage,
    fun keyed => insert_identified_keyed keyed intents, ?_⟩, changed, ⟨rfl, rfl, rfl, rfl⟩⟩
  intro outcome member
  obtain ⟨intent, found, owner⟩ := Option.map_eq_some_iff.mp (named outcome member)
  rw [(insert_identified intents).get?_kept found, Option.map_some, owner]

/-- A delta with an audit event is of a candidate that is there. -/
theorem writeRecordDelta_present {before after : CandidatePersistenceRecord}
    (audited : (recordTail before after).auditEvents ≠ [])
    (ran : writeRecordDelta t before after = .ok next) :
    (t.candidates.get? after.val.candidate.val.candidateId).isSome := by
  simp only [writeRecordDelta] at ran
  obtain ⟨_, _, ran⟩ := Except.seq_returns.mp ran
  obtain ⟨_, _, ran⟩ := Except.seq_returns.mp ran
  obtain ⟨_, _, ran⟩ := Except.seq_returns.mp ran
  obtain ⟨middle, updated, ran⟩ := Except.seq_returns.mp ran
  obtain ⟨_, _, ran⟩ := Except.seq_returns.mp ran
  obtain ⟨_, _, ran⟩ := Except.seq_returns.mp ran
  obtain ⟨_, audits, ran⟩ := Except.seq_returns.mp ran
  have present := insert_numbered_present audits audited
  obtain ⟨changed, candidates, rfl⟩ := updateChangedCandidate_returns updated
  rcases changed with ⟨_, same⟩ | ⟨_, row, found, _⟩
  · have kept : candidates = t.candidates := same
    rwa [← kept]
  · rw [found]
    rfl

/-! ## A record that was continued -/

omit [Sha256] in
theorem newValues_append {α : Type} (identity : α → String) (before tail : List α) :
    newValues identity before (before ++ tail) =
      tail.filter fun value => identity value ∉ before.map identity := by
  have none : before.filter (fun value => decide (identity value ∉ before.map identity)) = [] := by
    rw [List.filter_eq_nil_iff]
    intro value member
    simpa using ⟨value, member, rfl⟩
  rw [newValues, List.filter_append, none, List.nil_append]

namespace RecordLists

/-- What of a tail is new to the ids of the lists before it. -/
def onlyNew (l tail : RecordLists) : RecordLists where
  versionHistory := tail.versionHistory
  lifecycleHistory := tail.lifecycleHistory
  auditEvents := tail.auditEvents
  reviewDecisions := tail.reviewDecisions.filter fun decision =>
    decision.val.reviewId ∉ l.reviewDecisions.map fun decision => decision.val.reviewId
  feedbackEvents := tail.feedbackEvents.filter fun event =>
    event.val.feedback.val.feedbackId ∉
      l.feedbackEvents.map fun event => event.val.feedback.val.feedbackId
  conversionIntents := tail.conversionIntents.filter fun intent =>
    intent.val.intent.val.conversionIntentId ∉
      l.conversionIntents.map fun intent => intent.val.intent.val.conversionIntentId
  conversionOutcomes := tail.conversionOutcomes.filter fun outcome =>
    outcome.val.outcome.val.conversionOutcomeId ∉
      l.conversionOutcomes.map fun outcome => outcome.val.outcome.val.conversionOutcomeId
  reportEvidencePacks := tail.reportEvidencePacks.filter fun pack =>
    pack.val.reportEvidencePackId ∉
      l.reportEvidencePacks.map fun pack => pack.val.reportEvidencePackId
  aiLineageRecords := tail.aiLineageRecords.filter fun record =>
    record.val.requestId ∉ l.aiLineageRecords.map fun record => record.val.requestId

omit [Sha256] in
theorem append_empty (l : RecordLists) : l.append empty = l := by
  simp [append, empty]

omit [Sha256] in
theorem empty_append (l : RecordLists) : empty.append l = l := by
  simp [append, empty]

omit [Sha256] in
theorem Perm.refl (l : RecordLists) : l.Perm l := by
  constructor <;> exact .refl _

omit [Sha256] in
theorem perm_append_iff {l other tail more : RecordLists} (same : l.Perm other) :
    (l.append tail).Perm (other.append more) ↔ tail.Perm more := by
  have cancel : ∀ {α : Type} {a b x y : List α}, a.Perm b → ((a ++ x).Perm (b ++ y) ↔ x.Perm y) := by
    intro α a b x y base
    constructor
    · intro whole
      exact (List.perm_append_left_iff a).mp (whole.trans (base.symm.append_right y))
    · intro rest
      exact base.append rest
  constructor
  · intro whole
    exact ⟨(cancel same.versionHistory).mp whole.versionHistory,
      (cancel same.lifecycleHistory).mp whole.lifecycleHistory,
      (cancel same.auditEvents).mp whole.auditEvents,
      (cancel same.reviewDecisions).mp whole.reviewDecisions,
      (cancel same.feedbackEvents).mp whole.feedbackEvents,
      (cancel same.conversionIntents).mp whole.conversionIntents,
      (cancel same.conversionOutcomes).mp whole.conversionOutcomes,
      (cancel same.reportEvidencePacks).mp whole.reportEvidencePacks,
      (cancel same.aiLineageRecords).mp whole.aiLineageRecords⟩
  · intro rest
    exact ⟨(cancel same.versionHistory).mpr rest.versionHistory,
      (cancel same.lifecycleHistory).mpr rest.lifecycleHistory,
      (cancel same.auditEvents).mpr rest.auditEvents,
      (cancel same.reviewDecisions).mpr rest.reviewDecisions,
      (cancel same.feedbackEvents).mpr rest.feedbackEvents,
      (cancel same.conversionIntents).mpr rest.conversionIntents,
      (cancel same.conversionOutcomes).mpr rest.conversionOutcomes,
      (cancel same.reportEvidencePacks).mpr rest.reportEvidencePacks,
      (cancel same.aiLineageRecords).mpr rest.aiLineageRecords⟩

omit [Sha256] in
/-- Nothing is left out when as much is left. -/
theorem perm_onlyNew_iff {l tail : RecordLists} :
    tail.Perm (l.onlyNew tail) ↔ l.onlyNew tail = tail := by
  constructor
  · intro same
    have whole : ∀ {α : Type} {p : α → Bool} {a : List α}, a.Perm (a.filter p) → a.filter p = a := by
      intro α p a kept
      exact List.filter_eq_self.mpr (List.length_filter_eq_length_iff.mp kept.length_eq.symm)
    ext1
    · rfl
    · rfl
    · rfl
    · exact whole same.reviewDecisions
    · exact whole same.feedbackEvents
    · exact whole same.conversionIntents
    · exact whole same.conversionOutcomes
    · exact whole same.reportEvidencePacks
    · exact whole same.aiLineageRecords
  · intro same
    rw [same]
    exact .refl tail

end RecordLists

omit [Sha256] in
theorem recordTail_continued {before after : CandidatePersistenceRecord} {tail : RecordLists}
    (lists : after.lists = before.lists.append tail) :
    recordTail before after = before.lists.onlyNew tail := by
  have at_ : ∀ {α : Type} (field : RecordLists → List α)
      (_ : ∀ l more, field (RecordLists.append l more) = field l ++ field more),
      field after.lists = field before.lists ++ field tail := by
    intro α field appends
    rw [lists, appends]
  ext1
  · exact (congrArg _ (at_ RecordLists.versionHistory fun _ _ => rfl)).trans List.drop_left
  · exact (congrArg _ (at_ RecordLists.lifecycleHistory fun _ _ => rfl)).trans List.drop_left
  · exact (congrArg _ (at_ RecordLists.auditEvents fun _ _ => rfl)).trans List.drop_left
  · exact (congrArg _ (at_ RecordLists.reviewDecisions fun _ _ => rfl)).trans
      (newValues_append _ _ _)
  · exact (congrArg _ (at_ RecordLists.feedbackEvents fun _ _ => rfl)).trans
      (newValues_append _ _ _)
  · exact (congrArg _ (at_ RecordLists.conversionIntents fun _ _ => rfl)).trans
      (newValues_append _ _ _)
  · exact (congrArg _ (at_ RecordLists.conversionOutcomes fun _ _ => rfl)).trans
      (newValues_append _ _ _)
  · exact (congrArg _ (at_ RecordLists.reportEvidencePacks fun _ _ => rfl)).trans
      (newValues_append _ _ _)
  · exact (congrArg _ (at_ RecordLists.aiLineageRecords fun _ _ => rfl)).trans
      (newValues_append _ _ _)

/-- A record as another one left it, with more in its lists; the evidence hash only changes
with the candidate. -/
structure Continued (old new : CandidatePersistenceRecord) (tail : RecordLists) : Prop where
  lists : new.lists = old.lists.append tail
  candidateId : new.val.candidate.val.candidateId = old.val.candidate.val.candidateId
  persistedAtUtc : new.val.persistedAtUtc = old.val.persistedAtUtc
  evidenceHash : new.val.candidate.equals old.val.candidate = true →
    new.val.evidenceHash = old.val.evidenceHash

/-- Behind its delta the record is shown, unless one of its new ids was taken. -/
theorem shows_after_delta {old new : CandidatePersistenceRecord} {tail : RecordLists}
    (continued : Continued old new tail)
    (shown : (t.rowsOf new.val.candidate.val.candidateId).Shows old)
    (grown : DetailsGrown t next new.val.candidate.val.candidateId (recordTail old new))
    (updated : CandidateUpdated t next old new) :
    (next.rowsOf new.val.candidate.val.candidateId).Shows new ↔
      old.lists.onlyNew tail = tail := by
  have lists : new.lists.Perm (next.listsOf new.val.candidate.val.candidateId) ↔
      old.lists.onlyNew tail = tail := by
    have base : old.lists.Perm (t.listsOf new.val.candidate.val.candidateId) := shown.lists
    rw [grown.own, continued.lists, recordTail_continued continued.lists,
      RecordLists.perm_append_iff base, RecordLists.perm_onlyNew_iff]
  constructor
  · intro now
    exact lists.mp now.lists
  · intro fresh
    refine ⟨?_, lists.mpr fresh⟩
    obtain ⟨row, found, same, hash, persisted⟩ := shown.candidate
    rcases updated with ⟨unchanged, kept⟩ | ⟨_, current, present, _, replaced⟩
    · refine ⟨row, ?_, ?_, ?_, ?_⟩
      · rw [SnapshotTables.rowsOf, kept]
        exact found
      · rw [IdeaCandidate.equals_iff] at unchanged same ⊢
        exact unchanged.trans same
      · rw [continued.evidenceHash unchanged, hash]
      · rw [continued.persistedAtUtc, persisted]
    · have one : current = row := by
        have here : t.candidates.get? new.val.candidate.val.candidateId = some row := found
        rw [present] at here
        exact Option.some.inj here
      subst one
      refine ⟨⟨new.val.candidate, new.val.evidenceHash, current.persistedAtUtc⟩, ?_, ?_, rfl, ?_⟩
      · rw [SnapshotTables.rowsOf, replaced]
        exact Dict.get?_set_self _ _ _
      · exact IdeaCandidate.equals_self _
      · rw [continued.persistedAtUtc, persisted]

end

end LotusIdea

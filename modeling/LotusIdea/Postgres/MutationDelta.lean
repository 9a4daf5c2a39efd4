import LotusIdea.Postgres.DeltaEffects
import LotusIdea.Repository.LifecycleHistories
import LotusIdea.Repository.RecordedActions
import Mathlib.Data.List.Dedup

/-!
# The delta of a mutation

What a mutation changes in the snapshot that it ran on is one record, one key and one
event.  Its delta writes these, and an answer without a mutation writes at most the key.
-/

set_option autoImplicit false

namespace LotusIdea

open IdeaRepository (ResultRequest)
open KeyedTable (Owned)

section
variable [Sha256]

/-! ## What the record gains -/

/-- The id that the call gives an intent or a pack is none of the record's; reviews,
feedback and outcomes are looked up before they are recorded. -/
def AppendsFreshId (old : CandidatePersistenceRecord) : MutationCall → Prop
  | .recordConversionIntent q =>
      q.result.conversionIntent.val.intent.val.conversionIntentId ∉
        old.val.conversionIntents.map fun intent => intent.val.intent.val.conversionIntentId
  | .recordReportEvidencePack q =>
      q.result.evidencePack.val.reportEvidencePackId ∉
        old.val.reportEvidencePacks.map fun pack => pack.val.reportEvidencePackId
  | _ => True

/-- What an accepted mutation appends to a stored record. -/
structure Gains (s : IdeaRepository) (m : AcceptedMutation) (call : MutationCall)
    (old : CandidatePersistenceRecord) (tail : RecordLists) : Prop where
  continued : Continued old m.record tail
  fresh : old.lists.onlyNew tail = tail ↔ AppendsFreshId old call
  audited : tail.auditEvents ≠ []
  outcomes : ∀ outcome ∈ tail.conversionOutcomes,
    s.conversionIntentCandidates.get? outcome.val.conversionIntentId = some m.candidateId

variable {s : IdeaRepository} {m : AcceptedMutation} {call : MutationCall}

omit [Sha256] in
theorem not_equals_of_nextVersion {old new : IdeaCandidate} (later : NextVersion old new) :
    new.equals old = false := by
  rw [Bool.eq_false_iff]
  intro same
  have versions := later.later
  rw [IdeaCandidate.version, IdeaCandidate.version, IdeaCandidate.identity_of_equals same]
    at versions
  exact lt_irrefl _ versions

omit [Sha256] in
theorem filter_unheld {α : Type} {identity : α → String} {before : List α} {value : α} :
    ([value].filter fun other => decide (identity other ∉ before.map identity)) = [value] ↔
      identity value ∉ before.map identity := by
  by_cases held : identity value ∈ before.map identity
  · simp only [List.filter_cons, held, not_true_eq_false, decide_false, Bool.false_eq_true,
      if_false, List.filter_nil, reduceCtorEq]
  · simp only [List.filter_cons, held, not_false_eq_true, decide_true, if_true, List.filter_nil]

theorem accepted_gains (governed : call.Governed) (planned : call.plan s = .ok (.accept m))
    {old : CandidatePersistenceRecord} (found : s.candidateRecords.get? m.candidateId = some old) :
    ∃ tail, Gains s m call old tail := by
  have accepted : Accepted s call m := plan_sound planned
  have changes := accepted.changes
  rw [found] at changes
  have candidateId := changes.candidateId (c := .mutate call) governed
  obtain ⟨writes, _⟩ := mutation_writes planned
  cases writes with
  | created q entry auditEvent named absent _ record _ =>
      rw [found] at absent
      cases absent
  | reconciled q existing candidate entry auditEvent stored later told record _ =>
      rw [found] at stored
      cases stored
      refine ⟨{ versionHistory := [entry], auditEvents := [auditEvent] }, ⟨?_, candidateId, ?_, ?_⟩,
        ?_, by simp, by simp⟩
      · simp [CandidatePersistenceRecord.lists, RecordLists.append, record]
      · rw [record]
      · intro same
        rw [record] at same
        rw [not_equals_of_nextVersion later] at same
        cases same
      · simp [RecordLists.onlyNew, AppendsFreshId]
  | transitioned q existing attributes stored _ moved _ =>
      rw [found] at stored
      cases stored
      obtain ⟨⟨candidate, entry, _, record⟩, _⟩ := transitionRecord_moved moved
      refine ⟨{ lifecycleHistory := [entry], auditEvents := [m.auditEvent] },
        ⟨?_, candidateId, ?_, ?_⟩, ?_, by simp, by simp⟩
      · simp [CandidatePersistenceRecord.lists, RecordLists.append, record]
      · rw [record]
      · intro _
        rw [record]
      · simp [RecordLists.onlyNew, AppendsFreshId]
  | reviewed q existing history named stored unseen source record _ =>
      rw [found] at stored
      cases stored
      obtain ⟨entries, extended, _⟩ := review_continues planned found
      have unheld : q.result.decision.val.reviewId ∉
          old.val.reviewDecisions.map fun decision => decision.val.reviewId := by
        intro held
        obtain ⟨decision, member, same⟩ := List.mem_map.mp held
        exact decision_unheld unseen m.candidateId old found decision member same
      refine ⟨{ lifecycleHistory := entries, auditEvents := [q.result.auditEvent]
                reviewDecisions := [q.result.decision] }, ⟨?_, candidateId, ?_, ?_⟩, ?_, by simp,
        by simp⟩
      · rw [record] at extended
        simp only at extended
        simp [CandidatePersistenceRecord.lists, RecordLists.append, record, extended]
      · rw [record]
      · intro _
        rw [record]
      · simp only [RecordLists.onlyNew, CandidatePersistenceRecord.lists, List.filter_nil,
          RecordLists.mk.injEq, true_and, and_true]
        exact filter_unheld.trans (iff_of_true unheld trivial)
  | feedback q existing named stored unseen record _ =>
      rw [found] at stored
      cases stored
      have unheld : q.result.feedbackEvent.val.feedback.val.feedbackId ∉
          old.val.feedbackEvents.map fun event => event.val.feedback.val.feedbackId := by
        intro held
        obtain ⟨event, member, same⟩ := List.mem_map.mp held
        exact feedback_unheld unseen m.candidateId old found event member same
      refine ⟨{ auditEvents := [q.result.auditEvent], feedbackEvents := [q.result.feedbackEvent] },
        ⟨?_, candidateId, ?_, ?_⟩, ?_, by simp, by simp⟩
      · simp [CandidatePersistenceRecord.lists, RecordLists.append, record]
      · rw [record]
      · intro _
        rw [record]
      · simp only [RecordLists.onlyNew, CandidatePersistenceRecord.lists, List.filter_nil,
          RecordLists.mk.injEq, true_and, and_true]
        exact filter_unheld.trans (iff_of_true unheld trivial)
  | converted q existing history grant named stored source carried held record _ =>
      rw [found] at stored
      cases stored
      obtain ⟨entries, extended, _⟩ := conversion_continues planned found
      refine ⟨{ lifecycleHistory := entries, auditEvents := [q.result.auditEvent]
                conversionIntents := [q.result.conversionIntent] }, ⟨?_, candidateId, ?_, ?_⟩, ?_,
        by simp, by simp⟩
      · rw [record] at extended
        simp only at extended
        simp [CandidatePersistenceRecord.lists, RecordLists.append, record, extended]
      · rw [record]
      · intro _
        rw [record]
      · simp only [RecordLists.onlyNew, CandidatePersistenceRecord.lists, List.filter_nil,
          RecordLists.mk.injEq, true_and, and_true]
        exact filter_unheld
  | outcome q existing named stored unseen progresses record _ =>
      rw [found] at stored
      cases stored
      have unheld : q.result.conversionOutcome.val.outcome.val.conversionOutcomeId ∉
          old.val.conversionOutcomes.map
            fun outcome => outcome.val.outcome.val.conversionOutcomeId := by
        intro held
        obtain ⟨outcome, member, same⟩ := List.mem_map.mp held
        exact outcome_unheld unseen m.candidateId old found outcome member same
      refine ⟨{ auditEvents := [q.result.auditEvent]
                conversionOutcomes := [q.result.conversionOutcome] }, ⟨?_, candidateId, ?_, ?_⟩, ?_,
        by simp, ?_⟩
      · simp [CandidatePersistenceRecord.lists, RecordLists.append, record]
      · rw [record]
      · intro _
        rw [record]
      · simp only [RecordLists.onlyNew, CandidatePersistenceRecord.lists, List.filter_nil,
          RecordLists.mk.injEq, true_and, and_true]
        exact filter_unheld.trans (iff_of_true unheld trivial)
      · intro outcome member
        rw [List.mem_singleton] at member
        subst member
        exact named
  | packed q existing named stored record _ =>
      rw [found] at stored
      cases stored
      refine ⟨{ auditEvents := [q.result.auditEvent]
                reportEvidencePacks := [q.result.evidencePack] }, ⟨?_, candidateId, ?_, ?_⟩, ?_,
        by simp, by simp⟩
      · simp [CandidatePersistenceRecord.lists, RecordLists.append, record]
      · rw [record]
      · intro _
        rw [record]
      · simp only [RecordLists.onlyNew, CandidatePersistenceRecord.lists, List.filter_nil,
          RecordLists.mk.injEq, true_and, and_true]
        exact filter_unheld

/-! ## Neutral steps -/

variable {t next : SnapshotTables}

omit [Sha256] in
theorem newEntries_self {κ α : Type} [DecidableEq κ] (d : Dict κ α) : newEntries d d = [] := by
  rw [newEntries, List.filter_eq_nil_iff]
  rintro ⟨key, value⟩ member
  rw [Dict.get?_eq_some_iff.mpr member]
  simp

omit [Sha256] in
theorem newEntries_set {κ α : Type} [DecidableEq κ] (d : Dict κ α) (key : κ) (value : α) :
    newEntries d (d.set key value) =
      if (d.get? key).isSome then [] else [(key, value)] := by
  obtain ⟨front, back, split, others⟩ := Dict.entries_set_split d key value
  have old : ∀ entry, entry ∈ front ∨ entry ∈ back → (d.get? entry.1).isNone = false := by
    intro entry member
    rw [Dict.get?_eq_some_iff.mpr (others entry member).1]
    rfl
  have none_front : front.filter (fun entry => (d.get? entry.1).isNone) = [] :=
    List.filter_eq_nil_iff.mpr fun entry member => by simp [old entry (Or.inl member)]
  have none_back : back.filter (fun entry => (d.get? entry.1).isNone) = [] :=
    List.filter_eq_nil_iff.mpr fun entry member => by simp [old entry (Or.inr member)]
  rw [newEntries, split, List.filter_append, none_front, List.nil_append, List.filter_cons,
    none_back]
  cases found : d.get? key <;> simp

theorem writeRecordDelta_self (t : SnapshotTables) (record : CandidatePersistenceRecord) :
    writeRecordDelta t record record = .ok t := by
  have same : ∀ {α : Type} (identity : α → String) (values : List α),
      newValues identity values values = [] := by
    intro α identity values
    have none := newValues_append identity values []
    rwa [List.append_nil, List.filter_nil] at none
  simp only [writeRecordDelta, same, List.drop_length, updateChangedCandidate,
    IdeaCandidate.equals_self, if_true]
  rfl

/-- Records that are as before write nothing. -/
theorem writeRecordEntry_same {entry : String × CandidatePersistenceRecord}
    (stored : entry ∈ s.candidateRecords.entries) (t : SnapshotTables) :
    writeRecordEntry s t entry = .ok t := by
  rw [writeRecordEntry, Dict.get?_eq_some_iff.mpr stored]
  exact writeRecordDelta_self t entry.2

/-- The records after one assignment write that record's delta. -/
theorem writeRecords_set (candidateId : String) (record : CandidatePersistenceRecord)
    (t : SnapshotTables) :
    (s.candidateRecords.set candidateId record).entries.foldlM (writeRecordEntry s) t =
      writeRecordEntry s t (candidateId, record) := by
  obtain ⟨front, back, split, others⟩ := Dict.entries_set_split s.candidateRecords candidateId record
  rw [split]
  exact Except.foldlM_only fun other member state =>
    writeRecordEntry_same (others other member).1 state

theorem lifecycle_allows {candidateIds : List String} {candidateId : String}
    (allowed : assertLifecycleWriteAllowed t candidateIds = .ok ())
    (mutated : candidateId ∈ candidateIds)
    (present : (t.candidates.get? candidateId).isSome) :
    (t.rowsOf candidateId).isClosed = false := by
  have passed := Except.forM_ok_iff.mp allowed candidateId (by
    simp [Sql.mem_orderBy, mutated, present])
  split at passed
  · cases passed
  rename_i state found
  split at passed
  · cases passed
  rename_i neither
  simp only [CandidateRows.isClosed, SnapshotTables.rowsOf, found]
  cases state <;> simp_all

/-! ## The steps of a delta -/

structure DeltaSteps (t : SnapshotTables) (before after : IdeaRepository)
    (created keyed detailed next : SnapshotTables) : Prop where
  allowed : assertLifecycleWriteAllowed t (mutatedCandidateIds before after) = .ok ()
  candidates : insertNewCandidates before after t = .ok created
  keys : insertNewKeys before after created = .ok keyed
  details : after.candidateRecords.entries.foldlM (writeRecordEntry before) keyed = .ok detailed
  rest : ∃ outboxEvents submissions,
    next = { detailed with outboxEvents := outboxEvents, submissions := submissions } ∧
    outboxEvents.entries =
      detailed.outboxEvents.entries ++ newEntries before.outbox.events after.outbox.events ∧
    submissions.entries =
      detailed.submissions.entries ++
        newEntries before.downstreamSubmissions after.downstreamSubmissions

theorem applySnapshotDelta_steps {before after : IdeaRepository}
    (applied : applySnapshotDelta t before after = .ok next) :
    ∃ created keyed detailed, DeltaSteps t before after created keyed detailed next := by
  simp only [applySnapshotDelta] at applied
  obtain ⟨_, allowed, applied⟩ := Except.seq_returns.mp applied
  obtain ⟨created, candidates, applied⟩ := Except.seq_returns.mp applied
  obtain ⟨keyed, keys, applied⟩ := Except.seq_returns.mp applied
  obtain ⟨detailed, details, applied⟩ := Except.seq_returns.mp applied
  obtain ⟨_, events, applied⟩ := Except.seq_returns.mp applied
  obtain ⟨_, submissions, applied⟩ := Except.seq_returns.mp applied
  cases applied
  exact ⟨created, keyed, detailed, allowed, candidates, keys, details, _, _, rfl,
    KeyedTable.insertAll_entries events, KeyedTable.insertAll_entries submissions⟩

/-! ## An accepted mutation -/

/-- The tables before and after the delta of an accepted mutation. -/
structure MutationWritten (t next : SnapshotTables) (before : IdeaRepository) (call : MutationCall)
    (m : AcceptedMutation) (event : OutboxEventRecord) : Prop where
  /-- What the mutation started from is what the tables held. -/
  current : ∀ old, before.candidateRecords.get? m.candidateId = some old →
    (t.rowsOf m.candidateId).Shows old
  unheld : before.candidateRecords.get? m.candidateId = none →
    t.candidates.get? m.candidateId = none
  record : (next.rowsOf m.candidateId).Shows m.record ↔
    ∀ old, before.candidateRecords.get? m.candidateId = some old → AppendsFreshId old call
  others : ∀ other, other ≠ m.candidateId → next.rowsOf other = t.rowsOf other
  key : ∃ scope, m.record.val.candidate.val.accessScope = some scope ∧
    next.idempotencyRecords.entries = t.idempotencyRecords.entries ++
      [((some scope.val.tenantId, call.request.idempotencyKey),
        ⟨keyRecord call.request.idempotencyKey call.request.payload, some m.candidateId⟩)]
  event : next.outboxEvents.entries = t.outboxEvents.entries ++ [(event.val.eventId, event)]
  submissions : next.submissions = t.submissions
  wellFormed : next.WellFormed

/-- The key of an accepted mutation goes in under the tenant of its record. -/
theorem insertNewKeys_written {created keyed : SnapshotTables} {event : OutboxEventRecord}
    (repository : s.Keyed) (governed : call.Governed) (planned : call.plan s = .ok (.accept m))
    (ran : insertNewKeys s ((s.write m).appendEvent event) created = .ok keyed) :
    ∃ scope idempotencyRecords, m.record.val.candidate.val.accessScope = some scope ∧
      keyed = { created with idempotencyRecords := idempotencyRecords } ∧
      idempotencyRecords.entries = created.idempotencyRecords.entries ++
        [((some scope.val.tenantId, call.request.idempotencyKey),
          ⟨keyRecord call.request.idempotencyKey call.request.payload, some m.candidateId⟩)] := by
  have accepted : Accepted s call m := plan_sound planned
  obtain ⟨_, scope, binds⟩ := mutation_writes planned
  have tenant : m.record.val.candidate.val.accessScope = some scope := by
    have changes := accepted.changes
    have named := binds.tenant
    cases found : s.candidateRecords.get? m.candidateId with
    | none =>
        rw [found] at named
        exact named
    | some old =>
        rw [found] at changes named
        rw [changes.accessScope (c := .mutate call) governed]
        exact named
  have records : ((s.write m).appendEvent event).candidateRecords =
      s.candidateRecords.set m.candidateId m.record := by
    rw [← accepted.recordId_eq repository]
    rfl
  have keys : newEntries s.idempotencyRecords
      ((s.write m).appendEvent event).idempotencyRecords = [(m.storageKey, m.idempotencyRecord)] := by
    have unseen := accepted.unseen
    change newEntries s.idempotencyRecords
      (s.idempotencyRecords.set m.storageKey m.idempotencyRecord) = _
    rw [newEntries_set, unseen]
    rfl
  have candidate : ((s.write m).appendEvent event).idempotencyCandidates.get? m.storageKey =
      some m.candidateId := Dict.get?_set_self _ _ _
  rw [insertNewKeys, keys, List.foldlM_cons, candidate] at ran
  obtain ⟨middle, inserted, ran⟩ := Except.seq_returns.mp ran
  cases ran
  simp only [insertIdempotencyRecord, snapshotCandidateTenantId, records, Dict.get?_set_self,
    Option.bind_some, tenant] at inserted
  obtain ⟨_, named, inserted⟩ := Except.seq_returns.mp inserted
  cases named
  obtain ⟨idempotencyRecords, placed, inserted⟩ := Except.seq_returns.mp inserted
  cases inserted
  obtain ⟨free, _, rfl⟩ := KeyedTable.insert_eq_ok.mp placed
  refine ⟨scope, _, tenant, rfl, ?_⟩
  rw [Dict.entries_set_of_fresh _ free, binds.record]
  rfl

/-! ### The records of the snapshot -/

omit [Sha256] in
theorem mem_valuesOf {α : Type} {table : OwnedTable α} {owner : String} {value : α}
    (member : value ∈ KeyedTable.valuesOf table owner) :
    ∃ key, table.get? key = some ⟨owner, value⟩ := by
  obtain ⟨row, listed, rfl⟩ := List.mem_map.mp member
  obtain ⟨stored, mine⟩ := List.mem_filter.mp listed
  obtain ⟨key, found⟩ := Dict.mem_values_iff.mp stored
  obtain ⟨own, held⟩ := row
  refine ⟨key, ?_⟩
  rw [found, ← of_decide_eq_true mine]

/-- An intent that is shown is in the table under its id. -/
theorem intent_stored {candidateId : String} {record : CandidatePersistenceRecord}
    (wellFormed : t.WellFormed) (shown : (t.rowsOf candidateId).Shows record)
    {intent : GovernedConversionIntent} (held : intent ∈ record.val.conversionIntents) :
    t.intentCandidate intent.val.intent.val.conversionIntentId = some candidateId := by
  have member : intent ∈ KeyedTable.valuesOf t.conversionIntents candidateId :=
    shown.lists.conversionIntents.mem_iff.mp held
  obtain ⟨key, found⟩ := mem_valuesOf member
  have own : intent.val.intent.val.conversionIntentId = key := wellFormed.intents key _ found
  rw [SnapshotTables.intentCandidate, own, found]
  rfl

omit [Sha256] in
/-- The index of a loaded snapshot names candidates whose records hold the intent. -/
theorem loadedIntentCandidates_held {records : CandidateRecords} {conversionIntentId owner : String}
    (named : (loadedIntentCandidates records).get? conversionIntentId = some owner) :
    ∃ record, records.get? owner = some record ∧ ∃ intent ∈ record.val.conversionIntents,
      intent.val.intent.val.conversionIntentId = conversionIntentId := by
  have filled : ∀ (items : List (String × String)) (d : Dict String String),
      (items.foldl (fun filled item => filled.set item.1 item.2) d).get? conversionIntentId =
        some owner → d.get? conversionIntentId = some owner ∨
          (conversionIntentId, owner) ∈ items := by
    intro items
    induction items with
    | nil => exact fun d found => Or.inl found
    | cons item rest ih =>
        intro d found
        rcases ih _ found with earlier | later
        · rw [Dict.get?_set] at earlier
          split at earlier
          · rename_i same
            cases earlier
            exact Or.inr (by rw [same]; exact List.mem_cons_self)
          · exact Or.inl earlier
        · exact Or.inr (List.mem_cons_of_mem _ later)
  rcases filled _ _ named with none | member
  · cases none
  · obtain ⟨entry, stored, listed⟩ := List.mem_flatMap.mp member
    obtain ⟨intent, held, same⟩ := List.mem_map.mp listed
    cases same
    exact ⟨entry.2, Dict.get?_eq_some_iff.mpr stored, intent, held, rfl⟩

/-! ### A record that was stored -/

theorem rowsOf_other {middle : SnapshotTables} {candidateId : String} {tail : RecordLists}
    (candidates : ∀ other, other ≠ candidateId →
      next.candidates.get? other = t.candidates.get? other)
    (controls : ∀ other, other ≠ candidateId →
      next.lifecycleControls.get? other = t.lifecycleControls.get? other)
    (grown : DetailsGrown middle next candidateId tail) (same : middle.listsOf = t.listsOf) :
    ∀ other, other ≠ candidateId → next.rowsOf other = t.rowsOf other := by
  intro other different
  rw [SnapshotTables.rowsOf, SnapshotTables.rowsOf, candidates other different,
    controls other different, grown.other different, same]

theorem written_records (repository : s.Keyed) (planned : call.plan s = .ok (.accept m))
    (event : OutboxEventRecord) : ((s.write m).appendEvent event).candidateRecords =
      s.candidateRecords.set m.candidateId m.record := by
  have accepted : Accepted s call m := plan_sound planned
  rw [← accepted.recordId_eq repository]
  rfl

/-- A record that is not as before is a mutated one. -/
theorem mem_mutatedCandidateIds {before after : IdeaRepository} {candidateId : String}
    {record : CandidatePersistenceRecord}
    (now : after.candidateRecords.get? candidateId = some record)
    (changed : before.candidateRecords.get? candidateId ≠ some record) :
    candidateId ∈ mutatedCandidateIds before after := by
  rw [mutatedCandidateIds, List.mem_append, List.mem_append]
  left
  left
  rw [List.mem_filterMap]
  refine ⟨(candidateId, record), Dict.get?_eq_some_iff.mp now, ?_⟩
  simp only [if_neg changed]

/-- The events and submissions of a mutation on a loaded snapshot. -/
theorem written_rest (m : AcceptedMutation) (event : OutboxEventRecord)
    (outbox : s.outbox.events = Dict.empty) :
    newEntries s.outbox.events ((s.write m).appendEvent event).outbox.events =
        [(event.val.eventId, event)] ∧
      newEntries s.downstreamSubmissions ((s.write m).appendEvent event).downstreamSubmissions =
        [] := by
  constructor
  · change newEntries s.outbox.events (s.outbox.events.set event.val.eventId event) = _
    rw [newEntries_set, outbox]
    rfl
  · exact newEntries_self s.downstreamSubmissions

/-- The candidates' rows after an update. -/
theorem candidates_updated {old new : CandidatePersistenceRecord} {candidateId : String}
    (own : new.val.candidate.val.candidateId = candidateId)
    (present : ∃ row, t.candidates.get? candidateId = some row ∧
      row.candidate.val.candidateId = candidateId) (updated : CandidateUpdated t next old new) :
    (∀ other, other ≠ candidateId → next.candidates.get? other = t.candidates.get? other) ∧
      ∃ row, next.candidates.get? candidateId = some row ∧
        row.candidate.val.candidateId = candidateId := by
  rcases updated with ⟨_, same⟩ | ⟨_, row, _, _, replaced⟩
  · rw [same]
    exact ⟨fun _ _ => rfl, present⟩
  · rw [replaced, own]
    exact ⟨fun other different => Dict.get?_set_of_ne _ different, _, Dict.get?_set_self _ _ _, own⟩

theorem wellFormed_after {middle : SnapshotTables} {candidateId : String} {row : StoredCandidateRow}
    {tail : RecordLists} (wellFormed : t.WellFormed)
    (now : next.candidates.get? candidateId = some row)
    (own : row.candidate.val.candidateId = candidateId)
    (others : ∀ other, other ≠ candidateId →
      next.candidates.get? other = t.candidates.get? other)
    (grown : DetailsGrown middle next candidateId tail)
    (same : middle.conversionIntents = t.conversionIntents ∧
      middle.conversionOutcomes = t.conversionOutcomes ∧ middle.listsOf = t.listsOf) :
    next.WellFormed := by
  obtain ⟨intents, outcomes, lists⟩ := same
  refine ⟨?_, ?_, ?_, ?_⟩
  · intro other found stored
    by_cases here : other = candidateId
    · subst here
      rw [now] at stored
      rw [← Option.some.inj stored]
      exact own
    · rw [others other here] at stored
      exact wellFormed.keyed other found stored
  · intro other absent
    by_cases here : other = candidateId
    · subst here
      rw [now] at absent
      cases absent
    · rw [grown.other here, lists]
      rw [others other here] at absent
      exact wellFormed.owned other absent
  · exact grown.keyed (intents ▸ wellFormed.intents)
  · refine grown.outcomes ?_
    rw [outcomes, intents]
    exact wellFormed.outcomes

theorem written_stored {created keyed detailed : SnapshotTables} {event : OutboxEventRecord}
    {old : CandidatePersistenceRecord} (repository : s.Keyed) (governed : call.Governed)
    (planned : call.plan s = .ok (.accept m))
    (found : s.candidateRecords.get? m.candidateId = some old) (wellFormed : t.WellFormed)
    (index : s.conversionIntentCandidates = loadedIntentCandidates s.candidateRecords)
    (outbox : s.outbox.events = Dict.empty)
    (read : (t.rowsOf m.candidateId).Shows old ∨ (t.rowsOf m.candidateId).isClosed = true)
    (steps : DeltaSteps t s ((s.write m).appendEvent event) created keyed detailed next) :
    MutationWritten t next s call m event := by
  obtain ⟨tail, gains⟩ := accepted_gains governed planned found
  have own : m.record.val.candidate.val.candidateId = m.candidateId :=
    gains.continued.candidateId.trans (repository _ _ found)
  have records := written_records repository planned event
  obtain ⟨newEvent, noSubmission⟩ := written_rest m event outbox
  obtain ⟨allowed, candidates, keys, details, outboxEvents, submissions, rfl, events, submitted⟩ :=
    steps
  -- No candidate is new, and the keys leave the other tables alone.
  rw [insertNewCandidates, records, newEntries_set, found] at candidates
  cases candidates
  obtain ⟨scope, idempotencyRecords, tenant, rfl, keyEntries⟩ :=
    insertNewKeys_written repository governed planned keys
  rw [records, writeRecords_set, writeRecordEntry, found] at details
  simp only at details
  have tailed := recordTail_continued gains.continued.lists
  have audited : (recordTail old m.record).auditEvents ≠ [] := by
    rw [tailed]
    exact gains.audited
  -- The candidate's row is there and not closed, so what was read is still shown.
  have present := writeRecordDelta_present audited details
  have changed : s.candidateRecords.get? m.candidateId ≠ some m.record := by
    rw [found]
    intro same
    have lists := gains.continued.lists
    rw [← Option.some.inj same] at lists
    have audits : old.lists.auditEvents = old.lists.auditEvents ++ tail.auditEvents :=
      congrArg RecordLists.auditEvents lists
    exact gains.audited (List.self_eq_append_right.mp audits)
  have stillOpen : (t.rowsOf m.candidateId).isClosed = false := by
    refine lifecycle_allows allowed ?_ (own ▸ present)
    have now : ((s.write m).appendEvent event).candidateRecords.get? m.candidateId =
        some m.record := by
      rw [records]
      exact Dict.get?_set_self _ _ _
    exact mem_mutatedCandidateIds now changed
  have shown : (t.rowsOf m.candidateId).Shows old := by
    rcases read with shown | closed
    · exact shown
    · rw [stillOpen] at closed
      cases closed
  have ownOutcomes : ∀ outcome ∈ (recordTail old m.record).conversionOutcomes, ∀ row,
      t.conversionIntents.get? outcome.val.conversionIntentId = some row →
        row.owner = m.record.val.candidate.val.candidateId := by
    intro outcome member row stored
    rw [tailed] at member
    have named := gains.outcomes outcome (List.mem_filter.mp member).1
    rw [index] at named
    obtain ⟨record, held, intent, listed, same⟩ := loadedIntentCandidates_held named
    rw [found] at held
    cases held
    have owner := intent_stored wellFormed shown listed
    rw [same, SnapshotTables.intentCandidate, stored] at owner
    rw [own]
    exact Option.some.inj owner
  obtain ⟨grown, updated, aside⟩ := writeRecordDelta_grown details ownOutcomes
  have after := shows_after_delta gains.continued (own.symm ▸ shown) grown updated
  rw [own] at grown after
  obtain ⟨held, stored⟩ := Option.isSome_iff_exists.mp (own ▸ present)
  obtain ⟨others, row, now, rowId⟩ :=
    candidates_updated own ⟨held, stored, wellFormed.keyed _ _ stored⟩ updated
  have sameOthers : ∀ other, other ≠ m.candidateId → detailed.rowsOf other = t.rowsOf other :=
    rowsOf_other others (fun other _ => by rw [aside.lifecycleControls]) grown rfl
  refine ⟨?_, ?_, ?_, sameOthers, ⟨scope, tenant, ?_⟩, ?_, ?_, ?_⟩
  · intro record stored
    rw [found] at stored
    cases stored
    exact shown
  · intro none
    rw [found] at none
    cases none
  · refine (after.trans gains.fresh).trans ?_
    rw [found]
    simp only [Option.some.injEq, forall_eq']
  · rw [← keyEntries]
    exact congrArg Dict.entries aside.idempotencyRecords
  · rw [events, newEvent, aside.outboxEvents]
  · apply Dict.ext
    rw [submitted, noSubmission, List.append_nil, aside.submissions]
  · have settled := wellFormed_after wellFormed now rowId others grown ⟨rfl, rfl, rfl⟩
    exact ⟨settled.keyed, settled.owned, settled.intents, settled.outcomes⟩

/-! ### A record that is new -/

/-- What an accepted mutation makes of no record. -/
theorem accepted_creates (planned : call.plan s = .ok (.accept m))
    (absent : s.candidateRecords.get? m.candidateId = none) :
    m.record.val.candidate.val.candidateId = m.candidateId ∧
      m.record.val.conversionOutcomes = [] := by
  obtain ⟨writes, _⟩ := mutation_writes planned
  cases writes with
  | created q entry auditEvent named _ _ record _ =>
      rw [record]
      exact ⟨named.symm, rfl⟩
  | reconciled _ _ _ _ _ stored | transitioned _ _ _ stored | reviewed _ _ _ _ stored
  | feedback _ _ _ stored | converted _ _ _ _ _ stored | outcome _ _ _ stored
  | packed _ _ _ stored =>
      rw [absent] at stored
      cases stored

theorem insertCandidateRecord_returns {record : CandidatePersistenceRecord}
    (ran : insertCandidateRecord t record = .ok next) :
    t.candidates.get? record.val.candidate.val.candidateId = none ∧
      next = { t with
        candidates := t.candidates.set record.val.candidate.val.candidateId
          ⟨record.val.candidate, record.val.evidenceHash, record.val.persistedAtUtc⟩
        lifecycleControls := insertLifecycleControl t.lifecycleControls
          record.val.candidate.val.candidateId } := by
  simp only [insertCandidateRecord] at ran
  obtain ⟨candidates, placed, ran⟩ := Except.seq_returns.mp ran
  obtain ⟨free, _, rfl⟩ := KeyedTable.insert_eq_ok.mp placed
  split at ran
  · cases ran
  · cases ran
    exact ⟨free, rfl⟩

omit [Sha256] in
theorem insertLifecycleControl_other {controls : Dict String DataLifecycleState}
    {candidateId other : String} (different : other ≠ candidateId) :
    (insertLifecycleControl controls candidateId).get? other = controls.get? other := by
  unfold insertLifecycleControl
  split
  · rfl
  · exact Dict.get?_set_of_ne _ different

theorem written_created {created keyed detailed : SnapshotTables} {event : OutboxEventRecord}
    (repository : s.Keyed) (governed : call.Governed) (planned : call.plan s = .ok (.accept m))
    (absent : s.candidateRecords.get? m.candidateId = none) (wellFormed : t.WellFormed)
    (outbox : s.outbox.events = Dict.empty)
    (steps : DeltaSteps t s ((s.write m).appendEvent event) created keyed detailed next) :
    MutationWritten t next s call m event := by
  obtain ⟨own, noOutcomes⟩ := accepted_creates planned absent
  have records := written_records repository planned event
  obtain ⟨newEvent, noSubmission⟩ := written_rest m event outbox
  obtain ⟨_, candidates, keys, details, outboxEvents, submissions, rfl, events, submitted⟩ := steps
  rw [insertNewCandidates, records, newEntries_set, absent] at candidates
  obtain ⟨middle, inserted, ran⟩ := Except.seq_returns.mp candidates
  cases ran
  obtain ⟨free, rfl⟩ := insertCandidateRecord_returns inserted
  obtain ⟨scope, idempotencyRecords, tenant, rfl, keyEntries⟩ :=
    insertNewKeys_written repository governed planned keys
  rw [records, writeRecords_set, writeRecordEntry, absent] at details
  obtain ⟨grown, candidatesKept, aside⟩ := insertRecordDetails_grown noOutcomes details
  rw [own] at free grown candidatesKept
  have now : detailed.candidates.get? m.candidateId =
      some ⟨m.record.val.candidate, m.record.val.evidenceHash, m.record.val.persistedAtUtc⟩ := by
    rw [candidatesKept]
    exact Dict.get?_set_self _ _ _
  have others : ∀ other, other ≠ m.candidateId →
      detailed.candidates.get? other = t.candidates.get? other := by
    intro other different
    rw [candidatesKept]
    exact Dict.get?_set_of_ne _ different
  have controls : ∀ other, other ≠ m.candidateId →
      detailed.lifecycleControls.get? other = t.lifecycleControls.get? other := by
    intro other different
    rw [aside.lifecycleControls]
    exact insertLifecycleControl_other (by rw [own]; exact different)
  have lists : detailed.listsOf m.candidateId = m.record.lists := by
    rw [grown.own]
    exact (congrArg (RecordLists.append · m.record.lists) (wellFormed.owned _ free)).trans
      (RecordLists.empty_append _)
  have sameOthers : ∀ other, other ≠ m.candidateId → detailed.rowsOf other = t.rowsOf other :=
    rowsOf_other others controls grown rfl
  refine ⟨?_, fun _ => free, ?_, sameOthers, ⟨scope, tenant, ?_⟩, ?_, ?_, ?_⟩
  · intro record stored
    rw [absent] at stored
    cases stored
  · refine iff_of_true ⟨⟨_, now, IdeaCandidate.equals_self _, rfl, rfl⟩, ?_⟩ ?_
    · change m.record.lists.Perm (detailed.listsOf m.candidateId)
      rw [lists]
      exact .refl _
    · intro old stored
      rw [absent] at stored
      cases stored
  · rw [← keyEntries]
    exact congrArg Dict.entries aside.idempotencyRecords
  · rw [events, newEvent, aside.outboxEvents]
  · apply Dict.ext
    rw [submitted, noSubmission, List.append_nil, aside.submissions]
  · have settled := wellFormed_after wellFormed now own others grown ⟨rfl, rfl, rfl⟩
    exact ⟨settled.keyed, settled.owned, settled.intents, settled.outcomes⟩

end

end LotusIdea

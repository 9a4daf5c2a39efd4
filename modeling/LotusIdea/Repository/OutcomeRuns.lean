import LotusIdea.Domain.OutcomeHistory
import LotusIdea.Repository.IntentAuthority
import LotusIdea.Repository.Writes

/-!
# Conversion outcomes over runs

Every accepted outcome was judged against the outcomes that its record held for its
intent, so these are ordered in every reachable state, whatever was submitted between.
-/

set_option autoImplicit false

namespace LotusIdea

open IdeaRepository (ResultRequest)
open ConversionOutcomeIdentity (Corrects)

/-- The outcomes of one intent, in the order in which they were accepted. -/
def CandidatePersistenceRecord.outcomesOf (record : CandidatePersistenceRecord)
    (conversionIntentId : String) : List GovernedConversionOutcome :=
  record.val.conversionOutcomes.filter fun outcome =>
    outcome.val.conversionIntentId = conversionIntentId

/-- `TERMINAL_CONVERSION_OUTCOME_STATUSES`. -/
def terminalConversionOutcomeStatuses : List ConversionOutcomeStatus :=
  [.rejected, .failed, .completed]

namespace CandidatePersistenceRecord

def OutcomesOrdered (record : CandidatePersistenceRecord) : Prop :=
  ∀ conversionIntentId, LotusIdea.OutcomesOrdered (record.outcomesOf conversionIntentId)

theorem outcomesOrdered_of_same {old new : CandidatePersistenceRecord}
    (ordered : old.OutcomesOrdered)
    (same : new.val.conversionOutcomes = old.val.conversionOutcomes) : new.OutcomesOrdered := by
  intro conversionIntentId
  rw [outcomesOf, same]
  exact ordered conversionIntentId

theorem outcomesOrdered_of_none {record : CandidatePersistenceRecord}
    (none_ : record.val.conversionOutcomes = []) : record.OutcomesOrdered := by
  intro conversionIntentId
  rw [outcomesOf, none_]
  exact ConversionOutcomeIdentity.History.nil

/-- An outcome that the progression admits extends the outcomes of its intent. -/
theorem outcomesOrdered_of_recorded {old new : CandidatePersistenceRecord}
    {outcome : GovernedConversionOutcome} (ordered : old.OutcomesOrdered)
    (progresses : IdeaRepository.progressionConflicts old outcome = false)
    (recorded : new.val.conversionOutcomes = old.val.conversionOutcomes ++ [outcome]) :
    new.OutcomesOrdered := by
  intro conversionIntentId
  rw [outcomesOf, recorded, List.filter_append]
  by_cases own : outcome.val.conversionIntentId = conversionIntentId
  · subst own
    rw [List.filter_cons_of_pos (by simp), List.filter_nil, LotusIdea.OutcomesOrdered,
      List.map_append]
    refine progression_of_history (ordered _) ?_
    simpa [IdeaRepository.progressionConflicts, outcomesOf] using progresses
  · rw [List.filter_cons_of_neg (by simpa using own), List.filter_nil, List.append_nil]
    exact ordered conversionIntentId

end CandidatePersistenceRecord

section
variable [Sha256]

namespace IdeaRepository

def OutcomesOrdered (s : IdeaRepository) : Prop :=
  ∀ id record, s.candidateRecords.get? id = some record → record.OutcomesOrdered

theorem write_outcomes {s : IdeaRepository} (ordered : s.OutcomesOrdered) {c : MutationCall}
    {m : AcceptedMutation} (planned : c.plan s = .ok (.accept m)) : m.record.OutcomesOrdered := by
  obtain ⟨writes, _⟩ := mutation_writes planned
  cases writes with
  | created q entry auditEvent _ _ _ record _ =>
      exact CandidatePersistenceRecord.outcomesOrdered_of_none (by rw [record])
  | outcome q old _ stored _ progresses record _ =>
      exact CandidatePersistenceRecord.outcomesOrdered_of_recorded (ordered _ old stored)
        progresses (by rw [record])
  | transitioned q old attributes stored _ moved _ =>
      obtain ⟨candidate, entry, _, record⟩ := (transitionRecord_moved moved).record
      exact CandidatePersistenceRecord.outcomesOrdered_of_same (ordered _ old stored)
        (by rw [record])
  | reconciled q old _ _ _ stored _ _ record _ | reviewed q old _ _ stored _ _ record _
  | feedback q old _ stored _ record _ | converted q old _ _ _ stored _ _ _ record _
  | packed q old _ stored record _ =>
      exact CandidatePersistenceRecord.outcomesOrdered_of_same (ordered _ old stored)
        (by rw [record])

theorem outcomes_after_step {s : IdeaRepository} (keyed : s.Keyed) (ordered : s.OutcomesOrdered)
    (c : RepositoryCall) : (s.step c).OutcomesOrdered := by
  have after := records_after_step keyed c
  rw [OutcomesOrdered]
  generalize (s.step c).candidateRecords = records at after ⊢
  cases after with
  | same => exact ordered
  | written call isCall m planned =>
      exact Dict.forall_get?_set ordered (write_outcomes ordered planned)
  | moved q isCall record updated auditEvent stored moved =>
      obtain ⟨candidate, entry, _, fields⟩ := (transitionRecord_moved moved).record
      exact Dict.forall_get?_set ordered
        (CandidatePersistenceRecord.outcomesOrdered_of_same (ordered _ record stored)
          (by rw [fields]))
  | explained q isCall lineage record updated accepted =>
      exact Dict.forall_get?_set ordered
        (CandidatePersistenceRecord.outcomesOrdered_of_same (ordered _ record accepted.stored)
          (by rw [accepted.fields]))

theorem run_outcomesOrdered {calls : List RepositoryCall} (governed : ∀ c ∈ calls, c.Governed) :
    (empty.run calls).OutcomesOrdered := by
  have initially : empty.Keyed ∧ empty.OutcomesOrdered := by
    refine ⟨keyed_empty, ?_⟩
    intro id record stored
    cases stored
  have both := Runs.invariant step RepositoryCall.Governed (fun s => s.Keyed ∧ s.OutcomesOrdered)
    (fun s c good inv => ⟨keyed_after_step inv.1 good, outcomes_after_step inv.1 inv.2 c⟩)
    initially governed
  exact both.2

end IdeaRepository

/-- What is accepted of the outcomes of one intent, and how their rows are read. -/
structure OutcomesWellFormed (outcomes : List GovernedConversionOutcome) : Prop where
  versions : ∀ index (inside : index < outcomes.length),
    outcomes[index].val.sourceEventVersion = index + 1
  recorded : outcomes.Pairwise fun a b =>
    a.val.outcome.val.recordedAtUtc < b.val.outcome.val.recordedAtUtc
  corrected : outcomes.IsChain fun a b =>
    a.val.outcome.val.status ∈ terminalConversionOutcomeStatuses →
      Corrects (GovernedConversionOutcome.identity a) (GovernedConversionOutcome.identity b)
  read : ∀ rows : List GovernedConversionOutcome, rows.Perm outcomes →
    conversionOutcomeHistoryViolation (rows.map GovernedConversionOutcome.identity) = none ∧
    currentConversionOutcome rows = outcomes.getLast?
  sliced : (outcomes.Pairwise fun a b => a.val.acceptedAtUtc ≤ b.val.acceptedAtUtc) →
    ∀ (time : DateTime) (rows : List GovernedConversionOutcome), rows.Perm outcomes →
    conversionOutcomeHistoryViolation
      ((acceptedBy time rows).map GovernedConversionOutcome.identity) = none ∧
    currentConversionOutcome (acceptedBy time rows) = (acceptedBy time outcomes).getLast?

omit [Sha256] in
theorem terminal_allows_nothing {status : ConversionOutcomeStatus}
    (terminal : status ∈ terminalConversionOutcomeStatuses) : allowedNextStatuses status = [] := by
  cases status <;> simp_all [terminalConversionOutcomeStatuses, allowedNextStatuses]

omit [Sha256] in
theorem wellFormed_of_ordered {outcomes : List GovernedConversionOutcome}
    (ordered : OutcomesOrdered outcomes) : OutcomesWellFormed outcomes := by
  have reads : ∀ {rows given : List GovernedConversionOutcome}, OutcomesOrdered given →
      rows.Perm given →
      conversionOutcomeHistoryViolation (rows.map GovernedConversionOutcome.identity) = none ∧
      currentConversionOutcome rows = given.getLast? := fun own perm =>
    ⟨historyViolation_of_perm own (perm.map _), currentConversionOutcome_of_perm own perm⟩
  refine ⟨?_, ?_, ?_, fun rows perm => reads ordered perm, ?_⟩
  · intro index inside
    have version := ordered.version index (by simpa using inside)
    rw [List.getElem_map] at version
    exact version
  · have times := ordered.recorded_increase
    rw [List.pairwise_map] at times
    exact times
  · have chained := ordered.chained
    rw [List.isChain_map] at chained
    refine chained.imp fun a b next terminal => ?_
    rcases next.moved with corrects | progresses
    · exact corrects
    · have status := progresses.status
      have nothing : allowedNextStatuses (GovernedConversionOutcome.identity a).status = [] :=
        terminal_allows_nothing terminal
      rw [nothing] at status
      cases status
  · intro accepted time rows perm
    exact reads (ordered.acceptedBy accepted time) (perm.filter _)

/-- In every reachable state, and for every intent of every record, the accepted
outcomes are well formed. -/
theorem outcome_histories_well_formed (calls : List RepositoryCall)
    (governed : ∀ c ∈ calls, c.Governed) (id : String) (record : CandidatePersistenceRecord)
    (stored : (IdeaRepository.empty.run calls).candidateRecords.get? id = some record)
    (conversionIntentId : String) : OutcomesWellFormed (record.outcomesOf conversionIntentId) :=
  wellFormed_of_ordered
    (IdeaRepository.run_outcomesOrdered governed id record stored conversionIntentId)

/-! ## An outcome that is accepted and completed -/

def sampleOutcome (outcomeId : String) (version : Int) (status : ConversionOutcomeStatus)
    (time : Int) (existing : List GovernedConversionOutcome) :
    Except PyError ConversionOutcomeResult := do
  let converted ← sampleConversion
  let command ← Checked.make ConversionOutcomeCommandFields.checks
    { conversionOutcomeId := outcomeId, status := status, sourceSystem := .lotusReport
      sourceEventVersion := version, recordedAtUtc := .utc time
      downstreamReference := some "report-1" }
  recordConversionOutcome converted.conversionIntent command (.utc time) existing

def sampleCompletion : Except PyError ConversionOutcomeResult := do
  let accepted ← sampleOutcome "outcome-1" 1 .accepted 40 []
  sampleOutcome "outcome-2" 2 .completed 50 [accepted.conversionOutcome]

def sampleOutcomes : List RepositoryCall :=
  sampleConverted ++
    (recording "outcome-1" .recordConversionOutcome
        (sampleOutcome "outcome-1" 1 .accepted 40 []) ++
      recording "outcome-2" .recordConversionOutcome sampleCompletion)

theorem sampleOutcomes_governed : ∀ c ∈ sampleOutcomes, c.Governed := by
  refine List.forall_mem_append.mpr ⟨sampleConverted_governed, List.forall_mem_append.mpr ⟨?_, ?_⟩⟩
  all_goals exact recording_governed fun _ _ => trivial

end

section Sample

local instance outcomesSha256 : Sha256 := Sha256.zeros

set_option maxRecDepth 10000 in
theorem sampleOutcomes_stored :
    ((IdeaRepository.empty.run sampleOutcomes).candidateRecords.get? "idea-1").any
      (fun record => (record.outcomesOf "intent-1").length = 2) = true := by
  decide +kernel

theorem outcome_histories_well_formed_sample : ∃ record,
    (IdeaRepository.empty.run sampleOutcomes).candidateRecords.get? "idea-1" = some record ∧
    (record.outcomesOf "intent-1").length = 2 ∧
    OutcomesWellFormed (record.outcomesOf "intent-1") := by
  obtain ⟨record, stored, both⟩ := (Option.any_eq_true _ _).mp sampleOutcomes_stored
  exact ⟨record, stored, of_decide_eq_true both, outcome_histories_well_formed sampleOutcomes
    sampleOutcomes_governed "idea-1" record stored "intent-1"⟩

end Sample

end LotusIdea

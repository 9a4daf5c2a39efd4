import LotusIdea.Application.WorkflowRuns
import LotusIdea.Foundation.ActionIndex
import LotusIdea.Repository.ErrorAtomicity
import LotusIdea.Repository.OutboxFreshness

/-!
# The identities of conversion intents and report packs

An accepted intent or pack is appended to its candidate's record, and the index
entry of its id is assigned whatever stood there.  The ids stay unique, and the
index leads to their holders, as long as no command brings a held id under a key
that its candidate's tenant has not used.
-/

set_option autoImplicit false

namespace LotusIdea

open IdeaRepository (LineageRequest)

/-- The id under which an intent is indexed. -/
def GovernedConversionIntent.id (i : GovernedConversionIntent) : String :=
  i.val.intent.val.conversionIntentId

def GovernedConversionIntent.candidateId (i : GovernedConversionIntent) : String :=
  i.val.intent.val.candidateId

/-- The id under which a pack is indexed. -/
def GovernedReportEvidencePack.id (p : GovernedReportEvidencePack) : String :=
  p.val.reportEvidencePackId

def GovernedReportEvidencePack.candidateId (p : GovernedReportEvidencePack) : String :=
  p.val.candidateId

namespace CandidatePersistenceRecord

def intents (r : CandidatePersistenceRecord) : List GovernedConversionIntent :=
  r.val.conversionIntents

def packs (r : CandidatePersistenceRecord) : List GovernedReportEvidencePack :=
  r.val.reportEvidencePacks

end CandidatePersistenceRecord

section
variable [Sha256]

namespace IdeaRepository

def IntentUnheld (s : IdeaRepository) (conversionIntentId : String) : Prop :=
  IdUnheld CandidatePersistenceRecord.intents GovernedConversionIntent.id s.candidateRecords
    conversionIntentId

def PackUnheld (s : IdeaRepository) (reportEvidencePackId : String) : Prop :=
  IdUnheld CandidatePersistenceRecord.packs GovernedReportEvidencePack.id s.candidateRecords
    reportEvidencePackId

def IntentsIndexed (s : IdeaRepository) : Prop :=
  ActionIndex CandidatePersistenceRecord.intents GovernedConversionIntent.id
    GovernedConversionIntent.candidateId s.candidateRecords s.conversionIntentCandidates

def PacksIndexed (s : IdeaRepository) : Prop :=
  ActionIndex CandidatePersistenceRecord.packs GovernedReportEvidencePack.id
    GovernedReportEvidencePack.candidateId s.candidateRecords s.reportEvidencePackCandidates

end IdeaRepository

/-! ## New identities -/

/-- A conversion or a pack brings an id that is not held, or a key that is used
already and so records nothing. -/
def MutationCall.NamesNewAction (s : IdeaRepository) : MutationCall → Prop
  | .recordConversionIntent q =>
      KeyUsed s q.result.conversionIntent.candidateId q.idempotencyKey ∨
        s.IntentUnheld q.result.conversionIntent.id
  | .recordReportEvidencePack q =>
      KeyUsed s q.result.evidencePack.candidateId q.idempotencyKey ∨
        s.PackUnheld q.result.evidencePack.id
  | _ => True

def RepositoryCall.NamesNewAction (s : IdeaRepository) : RepositoryCall → Prop
  | .mutate c => c.NamesNewAction s
  | _ => True

/-- The same of the commands, whose candidate is the one they name or the one
that their conversion intent leads to. -/
def WorkflowCall.NamesNewAction (s : IdeaRepository) : WorkflowCall → Prop
  | .conversionIntent c =>
      KeyUsed s c.val.candidateId c.val.idempotencyKey ∨
        s.IntentUnheld c.val.conversion.val.conversionIntentId
  | .reportEvidencePack c =>
      (∃ candidateId, s.conversionIntentCandidates.get? c.val.conversionIntentId =
          some candidateId ∧ KeyUsed s candidateId c.val.idempotencyKey) ∨
        s.PackUnheld c.val.evidencePack.val.reportEvidencePackId
  | .repository c => c.NamesNewAction s
  | _ => True

/-! ## What a call does to intents and packs -/

/-- Neither gains a member, or one record gains one and the index leads to it. -/
structure ActionsStep (s next : IdeaRepository) : Prop where
  intents : ActionIndexStep CandidatePersistenceRecord.intents GovernedConversionIntent.id
    GovernedConversionIntent.candidateId s.candidateRecords s.conversionIntentCandidates
    next.candidateRecords next.conversionIntentCandidates
  packs : ActionIndexStep CandidatePersistenceRecord.packs GovernedReportEvidencePack.id
    GovernedReportEvidencePack.candidateId s.candidateRecords s.reportEvidencePackCandidates
    next.candidateRecords next.reportEvidencePackCandidates

/-- The new record has the intents and packs of the one that it replaces. -/
structure SameActions (s : IdeaRepository) (candidateId : String)
    (record : CandidatePersistenceRecord) : Prop where
  intents : (s.candidateRecords.get? candidateId = none ∧ record.intents = []) ∨
    ∃ old, s.candidateRecords.get? candidateId = some old ∧ record.intents = old.intents
  packs : (s.candidateRecords.get? candidateId = none ∧ record.packs = []) ∨
    ∃ old, s.candidateRecords.get? candidateId = some old ∧ record.packs = old.packs

theorem SameActions.of_old {s : IdeaRepository} {candidateId : String}
    {old record : CandidatePersistenceRecord}
    (stored : s.candidateRecords.get? candidateId = some old)
    (intents : record.val.conversionIntents = old.val.conversionIntents)
    (packs : record.val.reportEvidencePacks = old.val.reportEvidencePacks) :
    SameActions s candidateId record :=
  ⟨Or.inr ⟨old, stored, intents⟩, Or.inr ⟨old, stored, packs⟩⟩

namespace ActionsStep
variable {s next : IdeaRepository}

theorem refl (records : next.candidateRecords = s.candidateRecords)
    (intents : next.conversionIntentCandidates = s.conversionIntentCandidates)
    (packs : next.reportEvidencePackCandidates = s.reportEvidencePackCandidates) :
    ActionsStep s next := by
  constructor
  · rw [records, intents]
    exact .kept (fun key row stored => ⟨row, stored⟩) fun key row stored => Or.inr ⟨row, stored, rfl⟩
  · rw [records, packs]
    exact .kept (fun key row stored => ⟨row, stored⟩) fun key row stored => Or.inr ⟨row, stored, rfl⟩

/-- A record is replaced by one with the same intents and packs. -/
theorem replaced {candidateId : String} {record : CandidatePersistenceRecord}
    (same : SameActions s candidateId record)
    (records : next.candidateRecords = s.candidateRecords.set candidateId record)
    (intents : next.conversionIntentCandidates = s.conversionIntentCandidates)
    (packs : next.reportEvidencePackCandidates = s.reportEvidencePackCandidates) :
    ActionsStep s next := by
  constructor
  · rw [records, intents]
    exact .replaced same.intents
  · rw [records, packs]
    exact .replaced same.packs

end ActionsStep

/-- The key of an accepted mutation was not used by the candidate it is recorded for. -/
theorem BindsKey.unused {s : IdeaRepository} {m : AcceptedMutation} {c : MutationCall}
    {scope : ReviewAccessScope} (binds : BindsKey s m c scope) :
    ¬ KeyUsed s m.candidateId c.request.idempotencyKey := by
  rintro ⟨record, own, stored, tenant, seen⟩
  have same := binds.tenant
  simp only [scopedCandidate, stored, Option.getD_some, tenant, Option.some.injEq] at same
  have unseen := binds.fresh.unseen
  rw [binds.fresh.shape, ← same] at unseen
  rw [unseen] at seen
  cases seen

/-- The writes of an accepted mutation that names a new action. -/
theorem write_actions {s : IdeaRepository} (keyed : s.Keyed) {c : MutationCall}
    (names : c.NamesNewAction s) {m : AcceptedMutation} (planned : c.plan s = .ok (.accept m)) :
    ActionsStep s (s.write m) := by
  have accepted : Accepted s c m := plan_sound planned
  have own := accepted.recordId_eq keyed
  obtain ⟨writes, scope, binds⟩ := mutation_writes planned
  have unused := binds.unused
  have records : (s.write m).candidateRecords = s.candidateRecords.set m.candidateId m.record := by
    simp only [IdeaRepository.write, own]
  have replaced (same : SameActions s m.candidateId m.record)
      (indexes : m.conversionIntentId = none ∧ m.reportEvidencePackId = none) :
      ActionsStep s (s.write m) := by
    refine .replaced same records ?_ ?_
    · simp [IdeaRepository.write, assignOptional, indexes.1]
    · simp [IdeaRepository.write, assignOptional, indexes.2]
  cases writes with
  | created q entry auditEvent _ absent _ record indexes =>
      refine replaced ⟨Or.inl ⟨absent, ?_⟩, Or.inl ⟨absent, ?_⟩⟩ indexes
      · rw [CandidatePersistenceRecord.intents, record]
      · rw [CandidatePersistenceRecord.packs, record]
  | reconciled q old candidate entry auditEvent stored _ _ record indexes =>
      exact replaced (.of_old stored (by rw [record]) (by rw [record])) indexes
  | transitioned q old attributes stored _ moved indexes =>
      obtain ⟨candidate, entry, _, record⟩ := (transitionRecord_moved moved).record
      exact replaced (.of_old stored (by rw [record]) (by rw [record])) indexes
  | reviewed q old history _ stored _ _ record indexes =>
      exact replaced (.of_old stored (by rw [record]) (by rw [record])) indexes
  | feedback q old _ stored _ record indexes =>
      exact replaced (.of_old stored (by rw [record]) (by rw [record])) indexes
  | outcome q old _ stored _ _ record indexes =>
      exact replaced (.of_old stored (by rw [record]) (by rw [record])) indexes
  | converted q old history grant named stored _ _ _ record indexes =>
      have unheld : s.IntentUnheld q.result.conversionIntent.id := by
        refine names.resolve_left ?_
        rw [named] at unused
        exact unused
      have grown : m.record.intents = old.intents ++ [q.result.conversionIntent] := by
        rw [CandidatePersistenceRecord.intents, record]
        rfl
      have index : (s.write m).conversionIntentCandidates =
          s.conversionIntentCandidates.set q.result.conversionIntent.id m.candidateId := by
        simp only [IdeaRepository.write, assignOptional, indexes.1]
        rfl
      constructor
      · rw [records, index]
        exact .added stored grown named.symm unheld
      · have packs : (s.write m).reportEvidencePackCandidates = s.reportEvidencePackCandidates := by
          simp [IdeaRepository.write, assignOptional, indexes.2]
        rw [records, packs]
        refine .replaced (Or.inr ⟨old, stored, ?_⟩)
        rw [CandidatePersistenceRecord.packs, record]
        rfl
  | packed q old named stored record indexes =>
      have unheld : s.PackUnheld q.result.evidencePack.id := by
        refine names.resolve_left ?_
        rw [named] at unused
        exact unused
      have grown : m.record.packs = old.packs ++ [q.result.evidencePack] := by
        rw [CandidatePersistenceRecord.packs, record]
        rfl
      have index : (s.write m).reportEvidencePackCandidates =
          s.reportEvidencePackCandidates.set q.result.evidencePack.id m.candidateId := by
        simp only [IdeaRepository.write, assignOptional, indexes.2]
        rfl
      constructor
      · have intents : (s.write m).conversionIntentCandidates = s.conversionIntentCandidates := by
          simp [IdeaRepository.write, assignOptional, indexes.1]
        rw [records, intents]
        refine .replaced (Or.inr ⟨old, stored, ?_⟩)
        rw [CandidatePersistenceRecord.intents, record]
        rfl
      · rw [records, index]
        exact .added stored grown named.symm unheld

theorem mutate_actions {s : IdeaRepository} (keyed : s.Keyed) {c : MutationCall}
    (names : c.NamesNewAction s) : ActionsStep s (s.mutate c).2 := by
  cases effect : s.mutate c with
  | mk answer next =>
      have cases_ := mutate_effect s c
      rw [effect] at cases_
      cases cases_ with
      | refused error _ => exact .refl rfl rfl rfl
      | answered result _ => exact .refl rfl rfl rfl
      | bound result _ _ _ _ => exact .refl rfl rfl rfl
      | cut m planned _ error _ => exact write_actions keyed names planned
      | written m planned _ event _ =>
          have step := write_actions keyed names planned
          exact ⟨step.intents, step.packs⟩

theorem KeyBound.actions {s next : IdeaRepository} (bound : KeyBound s next) :
    ActionsStep s next := by
  rcases bound with rfl | ⟨_, _, _, rfl⟩
  · exact .refl rfl rfl rfl
  · exact .refl rfl rfl rfl

theorem transition_actions {s : IdeaRepository} (keyed : s.Keyed)
    (q : IdeaRepository.TransitionRequest) : ActionsStep s (s.transitionCandidate q).2 := by
  unfold IdeaRepository.transitionCandidate
  split
  · exact .refl rfl rfl rfl
  split
  · exact .refl rfl rfl rfl
  rename_i record stored
  split
  · exact .refl rfl rfl rfl
  rename_i updated auditEvent moved
  obtain ⟨candidate, entry, _, fields⟩ := (transitionRecord_moved moved).record
  have own := keyed _ _ stored
  exact .replaced (.of_old stored (by rw [fields]) (by rw [fields])) (by rw [own]) rfl rfl

theorem LineageWrites.actions {s next : IdeaRepository} {q : LineageRequest}
    (writes : LineageWrites s q next) : ActionsStep s next := by
  have written : ∀ lineage record updated, LineageAccepted s q lineage record updated →
      SameActions s lineage.val.candidateId updated := by
    intro lineage record updated accepted
    exact .of_old accepted.stored (by rw [accepted.fields]) (by rw [accepted.fields])
  cases writes with
  | same => exact .refl rfl rfl rfl
  | written lineage record updated accepted =>
      exact .replaced (written lineage record updated accepted) rfl rfl rfl
  | keyed lineage record updated accepted _ _ _ =>
      exact .replaced (written lineage record updated accepted) rfl rfl rfl

theorem deliveryRun_actions (s : IdeaRepository) (key : String) (payload : Json) :
    ActionsStep s (s.recordOutboxDeliveryRunRequest key payload).2 := by
  unfold IdeaRepository.recordOutboxDeliveryRunRequest
  split
  · exact .refl rfl rfl rfl
  · simp only
    split <;> exact .refl rfl rfl rfl

/-- A call that names a new action moves intents and packs as an index step. -/
theorem step_actions {s : IdeaRepository} (keyed : s.Keyed) {c : RepositoryCall}
    (names : c.NamesNewAction s) : ActionsStep s (s.step c) := by
  cases c with
  | mutate c => exact mutate_actions keyed names
  | transition q => exact transition_actions keyed q
  | precheckReview q =>
      have bound : KeyBound s (s.precheckReviewMutation q).2 := precheck_keyBound s q
      exact bound.actions
  | precheckOutcome q =>
      have bound : KeyBound s (s.precheckConversionOutcomeMutation q).2 := precheck_keyBound s q
      exact bound.actions
  | requestDeliveryRun key payload => exact deliveryRun_actions s key payload
  | deliver c => exact .refl rfl rfl rfl
  | recordLineage q => exact (lineage_writes s q).actions
  | recordLineageRequest q key payload => exact (lineageRequest_writes s q key payload).actions
  | recordPresentation receipt =>
      obtain ⟨receipts, same⟩ := presentation_frame s receipt
      rw [IdeaRepository.step, same]
      exact .refl rfl rfl rfl

/-! ## Runs -/

/-- Records stand under their ids and both indexes are true. -/
structure ActionsIndexed (s : IdeaRepository) : Prop where
  keyed : s.Keyed
  intents : s.IntentsIndexed
  packs : s.PacksIndexed

theorem actionsIndexed_empty : ActionsIndexed IdeaRepository.empty :=
  ⟨keyed_empty, ActionIndex.empty, ActionIndex.empty⟩

/-- The candidate keeps its scope and every intent and pack that it holds. -/
def KeepsHeld (s next : IdeaRepository) : Prop :=
  ∀ candidateId record, s.candidateRecords.get? candidateId = some record →
    ∃ after, next.candidateRecords.get? candidateId = some after ∧
      after.val.candidate.val.accessScope = record.val.candidate.val.accessScope ∧
      record.intents <+: after.intents ∧ record.packs <+: after.packs

theorem KeepsHeld.refl (s : IdeaRepository) : KeepsHeld s s := fun _ record stored =>
  ⟨record, stored, rfl, List.prefix_rfl, List.prefix_rfl⟩

theorem KeepsHeld.trans {a b c : IdeaRepository} (first : KeepsHeld a b) (later : KeepsHeld b c) :
    KeepsHeld a c := by
  intro candidateId record stored
  obtain ⟨middle, there, scope, intents, packs⟩ := first candidateId record stored
  obtain ⟨after, found, sameScope, more, further⟩ := later candidateId middle there
  exact ⟨after, found, sameScope.trans scope, intents.trans more, packs.trans further⟩

/-- The indexes are true after the step, and nothing that was held is lost. -/
structure Advances (s next : IdeaRepository) : Prop where
  indexed : ActionsIndexed next
  keeps : KeepsHeld s next

theorem advances_step {s : IdeaRepository} (indexed : ActionsIndexed s) {c : RepositoryCall}
    (governed : c.Governed) (names : c.NamesNewAction s) : Advances s (s.step c) := by
  have step := step_actions indexed.keyed names
  refine ⟨⟨keyed_after_step indexed.keyed governed, indexed.intents.step step.intents,
    indexed.packs.step step.packs⟩, ?_⟩
  intro candidateId record stored
  obtain ⟨after, there, scope⟩ :=
    (keepsKeys indexed.keyed governed).records candidateId record stored
  obtain ⟨row, found, intents⟩ := ActionIndex.grows step.intents stored
  obtain ⟨own, also, packs⟩ := ActionIndex.grows step.packs stored
  rw [there] at found also
  cases found
  cases also
  exact ⟨after, there, scope, intents, packs⟩

/-- The calls of a command name a new action wherever the command asks for neither
an intent nor a pack. -/
theorem IssuedBy.namesNewAction {w : WorkflowCall} {c : RepositoryCall} (issued : IssuedBy w c)
    (other : ∀ request, w ≠ .conversionIntent request)
    (different : ∀ request, w ≠ .reportEvidencePack request)
    (beside : ∀ call, w ≠ .repository call) (s : IdeaRepository) : c.NamesNewAction s := by
  cases issued with
  | conversionIntent c => exact absurd rfl (other c)
  | reportEvidencePack c => exact absurd rfl (different c)
  | repository c => exact absurd rfl (beside c)
  | reviewPrecheck | review | feedbackPrecheck | feedback | lifecycle | outcomePrecheck
  | conversionOutcome => trivial

theorem ReachedBy.advances {s next : IdeaRepository} {w : WorkflowCall}
    (reached : ReachedBy (IssuedBy w) s next) (governed : w.Governed)
    (names : ∀ c, IssuedBy w c → ∀ s, RepositoryCall.NamesNewAction s c)
    (indexed : ActionsIndexed s) : Advances s next := by
  obtain ⟨calls, rfl, issued⟩ := reached
  have indexes : ∀ s c, IssuedBy w c → ActionsIndexed s → ActionsIndexed (s.step c) :=
    fun s c good inv => (advances_step inv (good.governed governed) (names c good s)).indexed
  refine ⟨Runs.invariant IdeaRepository.step (IssuedBy w) ActionsIndexed indexes indexed issued, ?_⟩
  exact Runs.related IdeaRepository.step (IssuedBy w) ActionsIndexed KeepsHeld KeepsHeld.refl
    (fun _ _ _ first later => first.trans later) indexes
    (fun s c good inv => (advances_step inv (good.governed governed) (names c good s)).keeps)
    indexed issued

theorem conversionIntent_advances {s : IdeaRepository} (indexed : ActionsIndexed s)
    {c : RequestConversionIntentToRepositoryCommand}
    (names : WorkflowCall.NamesNewAction s (.conversionIntent c)) :
    Advances s (s.workflowStep (.conversionIntent c)) := by
  rcases s.conversionIntent_state c with same | ⟨record, grant, result, stored, decided, moved⟩
  · rw [same]
    exact ⟨indexed, .refl s⟩
  · rw [moved]
    obtain ⟨id, candidateId, _⟩ := requestConversionIntent_intent decided
    rw [indexed.keyed _ _ stored] at candidateId
    refine advances_step indexed ⟨_, _, _, grant, decided⟩ ?_
    simp only [RepositoryCall.NamesNewAction, MutationCall.NamesNewAction,
      GovernedConversionIntent.id, GovernedConversionIntent.candidateId, conversionIntentRequest,
      id, candidateId]
    exact names

theorem reportEvidencePack_advances {s : IdeaRepository} (indexed : ActionsIndexed s)
    {c : RequestReportEvidencePackToRepositoryCommand}
    (names : WorkflowCall.NamesNewAction s (.reportEvidencePack c)) :
    Advances s (s.workflowStep (.reportEvidencePack c)) := by
  rcases s.reportEvidencePack_state c with
    same | ⟨intent, record, result, _, foundRecord, decided, moved⟩
  · rw [same]
    exact ⟨indexed, .refl s⟩
  · rw [moved]
    obtain ⟨holder, isHolder, stored⟩ := Option.bind_eq_some_iff.mp foundRecord
    obtain ⟨id, candidateId, _⟩ := requestReportEvidencePack_pack decided
    rw [indexed.keyed _ _ stored] at candidateId
    refine advances_step (c := .mutate (.recordReportEvidencePack _)) indexed trivial ?_
    simp only [RepositoryCall.NamesNewAction, MutationCall.NamesNewAction,
      GovernedReportEvidencePack.id, GovernedReportEvidencePack.candidateId,
      reportEvidencePackRequest, id, candidateId]
    refine names.imp ?_ (fun unheld => unheld)
    rintro ⟨found, leads, used⟩
    rw [isHolder] at leads
    cases leads
    exact used

theorem advances_workflow {s : IdeaRepository} {w : WorkflowCall} (governed : w.Governed)
    (names : w.NamesNewAction s) (indexed : ActionsIndexed s) : Advances s (s.workflowStep w) := by
  cases w with
  | conversionIntent c => exact conversionIntent_advances indexed names
  | reportEvidencePack c => exact reportEvidencePack_advances indexed names
  | repository c => exact advances_step indexed governed names
  | reviewAction | feedback | lifecycle | conversionOutcome =>
      refine (s.workflow_reaches _).advances governed ?_ indexed
      intro c issued s
      exact issued.namesNewAction (by simp) (by simp) (by simp) s

/-- A governed command that brings no held id under a new key. -/
def WorkflowCall.Fresh (s : IdeaRepository) (w : WorkflowCall) : Prop :=
  w.Governed ∧ w.NamesNewAction s

/-- Ids are unique over the store, and whatever is looked up by one is the action
that bears it and the candidate that holds it. -/
structure ActionsResolve (s : IdeaRepository) : Prop where
  intentIds : ((s.candidateRecords.values.flatMap CandidatePersistenceRecord.intents).map
    GovernedConversionIntent.id).Nodup
  packIds : ((s.candidateRecords.values.flatMap CandidatePersistenceRecord.packs).map
    GovernedReportEvidencePack.id).Nodup
  intents : ∀ candidateId record, s.candidateRecords.get? candidateId = some record →
    ∀ intent ∈ record.intents, intent.candidateId = candidateId ∧
      s.conversionIntentCandidates.get? intent.id = some candidateId ∧
      s.conversionIntentById intent.id = some intent ∧
      s.candidateRecordForConversionIntent intent.id = some record
  packs : ∀ candidateId record, s.candidateRecords.get? candidateId = some record →
    ∀ pack ∈ record.packs, pack.candidateId = candidateId ∧
      s.reportEvidencePackCandidates.get? pack.id = some candidateId ∧
      s.reportEvidencePackById pack.id = some pack ∧
      s.candidateRecordForReportEvidencePack pack.id = some record

theorem ActionsIndexed.resolve {s : IdeaRepository} (indexed : ActionsIndexed s) :
    ActionsResolve s where
  intentIds := indexed.intents.nodup
  packIds := indexed.packs.nodup
  intents := by
    intro candidateId record stored intent held
    have leads := indexed.intents.resolves candidateId record stored intent held
    have found := indexed.intents.find stored held
    refine ⟨indexed.intents.owned candidateId record stored intent held, leads, ?_, ?_⟩
    · simp only [IdeaRepository.conversionIntentById, IdeaRepository.conversionRecordForIntent,
        leads, stored, Option.bind_some, Option.map_some]
      exact found
    · simp only [IdeaRepository.candidateRecordForConversionIntent, leads, stored,
        Option.bind_some]
  packs := by
    intro candidateId record stored pack held
    have leads := indexed.packs.resolves candidateId record stored pack held
    have found := indexed.packs.find stored held
    refine ⟨indexed.packs.owned candidateId record stored pack held, leads, ?_, ?_⟩
    · simp only [IdeaRepository.reportEvidencePackById, leads, stored, Option.bind_some]
      exact found
    · simp only [IdeaRepository.candidateRecordForReportEvidencePack, leads, stored,
        Option.bind_some]

/-- A pack command for the sample's intent, always with the same pack id. -/
def samplePackCommand (idempotencyKey : String) :
    Except PyError RequestReportEvidencePackToRepositoryCommand := do
  let command ← Checked.make ReportEvidencePackCommandFields.checks
    { reportEvidencePackId := "pack-1", purpose := .advisorReviewEvidence
      actorSubject := "advisor-1", idempotencyKey := idempotencyKey
      reasonCodes := [.highCashRatio], requestedAtUtc := .utc 40
      retentionPolicyRef := "lotus-report:idea-evidence-retention:v1" }
  Checked.make RequestReportEvidencePackToRepositoryCommandFields.checks
    { conversionIntentId := "intent-1", evidencePack := command, idempotencyKey := idempotencyKey
      accessScopeFilter := ⟨["tenant-a"], [], [], []⟩, eventLineage := some sampleLineage }

def isRecorded {α : Type} (answer : Except PyError (WorkflowResult α)) : Bool :=
  match answer with
  | .ok result => result.persistence.decision = .accepted && result.action.isSome
  | .error _ => false

def samplePacked (c : RequestReportEvidencePackToRepositoryCommand) : List WorkflowCall :=
  sampleConverted.map .repository ++ [.reportEvidencePack c]

/-- The second command is accepted under its own key, and the store holds the id twice. -/
def recordsTwice (c d : RequestReportEvidencePackToRepositoryCommand) : Bool :=
  let packed := IdeaRepository.empty.workflowRun (samplePacked c)
  let again := packed.requestReportEvidencePackToRepository d
  isRecorded again.1 &&
    !decide ((again.2.candidateRecords.values.flatMap CandidatePersistenceRecord.packs).map
      GovernedReportEvidencePack.id).Nodup

theorem workflowRun_concat (calls : List WorkflowCall) (w : WorkflowCall) :
    IdeaRepository.empty.workflowRun (calls ++ [w]) =
      (IdeaRepository.empty.workflowRun calls).workflowStep w :=
  Runs.run_concat IdeaRepository.workflowStep IdeaRepository.empty calls w

theorem not_resolve_of_recordsTwice {c d : RequestReportEvidencePackToRepositoryCommand}
    (twice : recordsTwice c d = true) :
    isRecorded ((IdeaRepository.empty.workflowRun
      (samplePacked c)).requestReportEvidencePackToRepository d).1 = true ∧
    ¬ ActionsResolve
      (IdeaRepository.empty.workflowRun (samplePacked c ++ [.reportEvidencePack d])) := by
  simp only [recordsTwice, Bool.and_eq_true, Bool.not_eq_true', decide_eq_false_iff_not] at twice
  obtain ⟨recorded, repeated⟩ := twice
  refine ⟨recorded, ?_⟩
  intro resolve
  rw [workflowRun_concat] at resolve
  exact repeated resolve.packIds

end

section Sample

local instance identitiesSha256 : Sha256 := Sha256.zeros

def samplePackTwice : Bool :=
  match samplePackCommand "pack-1", samplePackCommand "pack-2" with
  | .ok c, .ok d => recordsTwice c d
  | _, _ => false

set_option maxRecDepth 10000 in
theorem samplePackTwice_holds : samplePackTwice = true := by decide +kernel

set_option maxRecDepth 10000 in
theorem sampleApproved_unconverted :
    ((IdeaRepository.empty.run sampleApproved).candidateRecords.values.all fun record =>
      record.intents.isEmpty) = true := by
  decide +kernel

theorem sampleConverted_fresh : Runs.Throughout IdeaRepository.workflowStep WorkflowCall.Fresh
    IdeaRepository.empty (sampleConverted.map .repository) := by
  rw [sampleConverted, List.map_append]
  refine Runs.throughout_append.mpr ⟨Runs.throughout_of_forall ?_ _, ?_⟩
  · intro w member s
    obtain ⟨call, isCall, rfl⟩ := List.mem_map.mp member
    refine ⟨sampleApproved_governed call isCall, ?_⟩
    simp only [sampleApproved, List.mem_cons] at isCall
    rcases isCall with rfl | recorded
    · trivial
    · unfold recording at recorded
      split at recorded
      · cases recorded
      · rw [List.mem_singleton.mp recorded]
        trivial
  · have governed : ∀ c ∈ recording "convert-1" MutationCall.recordConversionIntent sampleConversion,
        c.Governed := fun c member =>
      sampleConverted_governed c (List.mem_append_right _ member)
    unfold recording at governed ⊢
    split
    · trivial
    · rename_i result decided
      rw [decided] at governed
      refine ⟨⟨governed _ (List.mem_singleton_self _), Or.inr ?_⟩, trivial⟩
      intro candidateId record stored intent held
      change (IdeaRepository.empty.workflowRun
        (sampleApproved.map .repository)).candidateRecords.get? candidateId = some record at stored
      rw [workflowRun_repository] at stored
      have none_ := List.all_eq_true.mp sampleApproved_unconverted record
        (Dict.mem_values_of_get? stored)
      rw [List.isEmpty_iff.mp none_] at held
      cases held

end Sample

end LotusIdea

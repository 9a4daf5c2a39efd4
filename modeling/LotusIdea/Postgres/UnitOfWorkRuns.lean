import LotusIdea.Postgres.MutationDelta
import LotusIdea.Repository.RevokedAuthority

/-!
# Runs of units of work

Any workers, in any interleaving: what a mutation commits was made of what the tables held
when it committed.
-/

set_option autoImplicit false

namespace LotusIdea

open IdeaRepository (PersistRequest)

section
variable [Sha256]

/-! ## An attempt -/

variable {t next : SnapshotTables} {before : IdeaRepository} {call : MutationCall}

/-- At most a key was added. -/
def KeyAdded (t next : SnapshotTables) : Prop :=
  ∃ idempotencyRecords rows, next = { t with idempotencyRecords := idempotencyRecords } ∧
    idempotencyRecords.entries = t.idempotencyRecords.entries ++ rows ∧ rows.length ≤ 1

/-- What a committed call leaves in the tables. -/
inductive CommittedMutation (t next : SnapshotTables) (before : IdeaRepository)
    (call : MutationCall) : PersistenceResult → Prop
  | answered (result : PersistenceResult) (refuses : result.decision.isAccepting = false)
      (added : KeyAdded t next) : CommittedMutation t next before call result
  | written (m : AcceptedMutation) (event : OutboxEventRecord)
      (planned : call.plan before = .ok (.accept m)) (built : m.event.build = .ok event)
      (written : MutationWritten t next before call m event) :
      CommittedMutation t next before call m.result

theorem attempt_raises {refusal : Option DeltaError} {raised : MutationError}
    (ran : attemptMutation refusal t before call = (.error raised, next)) : next = t := by
  unfold attemptMutation at ran
  split at ran
  · cases ran
    rfl
  split at ran
  · cases ran
    rfl
  split at ran
  · cases ran
    rfl
  · cases ran

theorem attempt_returns {refusal : Option DeltaError} {result : PersistenceResult}
    (ran : attemptMutation refusal t before call = (.ok result, next)) :
    ∃ after, before.mutate call = (.ok result, after) ∧
      applySnapshotDelta t before after = .ok next := by
  unfold attemptMutation at ran
  split at ran
  · cases ran
  rename_i after mutated
  split at ran
  · cases ran
  split at ran
  · cases ran
  · rename_i applied
    cases ran
    exact ⟨after, mutated, applied⟩

/-- The delta of a snapshot in which at most keys are new. -/
theorem keys_only {after : IdeaRepository} (applied : applySnapshotDelta t before after = .ok next)
    (records : after.candidateRecords = before.candidateRecords)
    (outbox : after.outbox = before.outbox)
    (submissions : after.downstreamSubmissions = before.downstreamSubmissions)
    (keys : (newEntries before.idempotencyRecords after.idempotencyRecords).length ≤ 1) :
    KeyAdded t next := by
  obtain ⟨created, keyed, detailed, _, candidates, bound, details, outboxEvents, stored, rfl,
    events, submitted⟩ := applySnapshotDelta_steps applied
  rw [insertNewCandidates, records, newEntries_self] at candidates
  cases candidates
  rw [records, Except.foldlM_neutral fun entry member state => writeRecordEntry_same member state]
    at details
  cases details
  rw [outbox, newEntries_self, List.append_nil] at events
  rw [submissions, newEntries_self, List.append_nil] at submitted
  have sameEvents : outboxEvents = keyed.outboxEvents := Dict.ext events
  have sameSubmissions : stored = keyed.submissions := Dict.ext submitted
  subst sameEvents sameSubmissions
  rw [insertNewKeys] at bound
  cases new : newEntries before.idempotencyRecords after.idempotencyRecords with
  | nil =>
      rw [new] at bound
      cases bound
      exact ⟨t.idempotencyRecords, [], rfl, by simp, by simp⟩
  | cons entry rest =>
      have single : rest = [] := by
        rw [new, List.length_cons] at keys
        exact List.eq_nil_of_length_eq_zero (by omega)
      subst single
      rw [new, List.foldlM_cons] at bound
      obtain ⟨middle, inserted, bound⟩ := Except.seq_returns.mp bound
      cases bound
      simp only [insertIdempotencyRecord] at inserted
      obtain ⟨tenantId, _, inserted⟩ := Except.seq_returns.mp inserted
      obtain ⟨idempotencyRecords, placed, inserted⟩ := Except.seq_returns.mp inserted
      cases inserted
      obtain ⟨free, _, rfl⟩ := KeyedTable.insert_eq_ok.mp placed
      exact ⟨_, [_], rfl, Dict.entries_set_of_fresh _ free, by simp⟩

/-- A call on a loaded snapshot, of which the tables still show what it is about. -/
theorem attempt_commits {refusal : Option DeltaError} {result : PersistenceResult}
    (repository : before.Keyed) (governed : call.Governed) (wellFormed : t.WellFormed)
    (index : before.conversionIntentCandidates = loadedIntentCandidates before.candidateRecords)
    (outbox : before.outbox.events = Dict.empty)
    (read : ∀ m, call.plan before = .ok (.accept m) → ∀ old,
      before.candidateRecords.get? m.candidateId = some old →
        (t.rowsOf m.candidateId).Shows old ∨ (t.rowsOf m.candidateId).isClosed = true)
    (ran : attemptMutation refusal t before call = (.ok result, next)) :
    CommittedMutation t next before call result := by
  obtain ⟨after, mutated, applied⟩ := attempt_returns ran
  have effect := mutate_effect before call
  rw [mutated] at effect
  cases effect with
  | answered _ refuses =>
      refine .answered _ refuses (keys_only applied rfl rfl rfl ?_)
      rw [newEntries_self]
      exact Nat.zero_le _
  | bound _ storageKey idempotencyRecord candidateId refuses =>
      refine .answered _ refuses (keys_only applied rfl rfl rfl ?_)
      change (newEntries before.idempotencyRecords
        (before.idempotencyRecords.set storageKey idempotencyRecord)).length ≤ 1
      rw [newEntries_set]
      split <;> simp
  | written m planned accepted event built =>
      obtain ⟨created, keyed, detailed, steps⟩ := applySnapshotDelta_steps applied
      refine .written m event planned built ?_
      cases found : before.candidateRecords.get? m.candidateId with
      | none => exact written_created repository governed planned found wellFormed outbox steps
      | some old =>
          exact written_stored repository governed planned found wellFormed index outbox
            (read m planned old found) steps

/-! ## What is locked -/

/-- A mutation changes a candidate that was locked for it. -/
theorem written_locked {loadedFrom : SnapshotTables} {tenantId : Option String}
    {m : AcceptedMutation} (wellFormed : loadedFrom.WellFormed)
    (loaded : LoadsSnapshot loadedFrom call tenantId before)
    (planned : call.plan before = .ok (.accept m)) :
    m.candidateId ∈ lockedCandidates loadedFrom call := by
  obtain ⟨writes, _⟩ := mutation_writes planned
  cases writes with
  | created q _ _ named => simp [lockedCandidates, named]
  | reconciled q => simp [lockedCandidates, (persist_reconciles planned).1]
  | transitioned q => simp [lockedCandidates, lifecycle_target planned]
  | reviewed q _ _ named => simp [lockedCandidates, named]
  | feedback q _ named => simp [lockedCandidates, named]
  | converted q _ _ _ named => simp [lockedCandidates, named]
  | packed q _ named => simp [lockedCandidates, named]
  | outcome q _ named =>
      -- The intent is one of a record that was read, so its row leads to the candidate.
      rw [loaded.conversionIntentCandidates] at named
      obtain ⟨record, found, intent, held, same⟩ := loadedIntentCandidates_held named
      have shown := (loaded.records _ _ found).2.2
      have owner := intent_stored wellFormed shown held
      rw [same] at owner
      simp [lockedCandidates, owner]

/-- The records of a loaded snapshot stand under their own ids. -/
theorem loaded_keyed {loadedFrom : SnapshotTables} {tenantId : Option String}
    (wellFormed : loadedFrom.WellFormed) (loaded : LoadsSnapshot loadedFrom call tenantId before) :
    before.Keyed := by
  intro candidateId record found
  obtain ⟨row, stored, same, _⟩ := (loaded.records _ _ found).2.2.candidate
  rw [IdeaCandidate.candidateId_of_equals same]
  exact wellFormed.keyed candidateId row stored

/-! ## Runs -/

section Runs
variable {W : Type} [DecidableEq W]

/-- What a phase carries: a governed call, and a snapshot that was loaded for it. -/
def UnitPhase.Sound : UnitPhase → Prop
  | .waiting call _ => call.Governed
  | .holding call _ locks before => call.Governed ∧ ∃ t tenantId, t.WellFormed ∧
      LoadsSnapshot t call tenantId before ∧ locks = lockedCandidates t call
  | _ => True

/-- The locks with what was read under them. -/
def heldUnit (locks : List String) (before : IdeaRepository) :
    LockedUnits.Held String CandidatePersistenceRecord :=
  ⟨locks, fun id => if id ∈ locks then before.candidateRecords.get? id else none⟩

def UnitPhase.held : UnitPhase → Option (LockedUnits.Held String CandidatePersistenceRecord)
  | .holding _ _ locks before => some (heldUnit locks before)
  | _ => none

def UnitSystem.units (s : UnitSystem W) :
    LockedUnits.State W String CandidatePersistenceRecord SnapshotTables :=
  ⟨s.tables, fun worker => (s.phase worker).held⟩

abbrev UnitsStep : LockedUnits.State W String CandidatePersistenceRecord SnapshotTables →
    LockedUnits.State W String CandidatePersistenceRecord SnapshotTables → Prop :=
  LockedUnits.Step SnapshotTables.rowsOf CandidateRows.Shows fun rows => rows.isClosed = true

abbrev UnitsCurrent : LockedUnits.State W String CandidatePersistenceRecord SnapshotTables → Prop :=
  LockedUnits.Current SnapshotTables.rowsOf CandidateRows.Shows fun rows => rows.isClosed = true

structure UnitSystem.Sound (s : UnitSystem W) : Prop where
  wellFormed : s.tables.WellFormed
  phases : ∀ worker, (s.phase worker).Sound
  current : UnitsCurrent s.units

variable {s after : UnitSystem W}

theorem heldUnit_seen {locks : List String} {key : String} {record : CandidatePersistenceRecord}
    (seen : (heldUnit locks before).seen key = some record) :
    key ∈ locks ∧ before.candidateRecords.get? key = some record := by
  simp only [heldUnit] at seen
  split at seen
  · exact ⟨‹_›, seen⟩
  · cases seen

theorem units_updated (s : UnitSystem W) (tables : SnapshotTables) (worker : W)
    (phase : UnitPhase) :
    UnitSystem.units ⟨tables, Function.update s.phase worker phase⟩ =
      ⟨tables, Function.update s.units.held worker phase.held⟩ := by
  simp only [UnitSystem.units, LockedUnits.State.mk.injEq, true_and]
  funext other
  exact Function.apply_update (fun _ => UnitPhase.held) s.phase worker phase other

theorem held_locks {phase : UnitPhase} {unit : LockedUnits.Held String CandidatePersistenceRecord}
    (holds : phase.held = some unit) : unit.locks = phase.locks := by
  cases phase with
  | holding call retried locks before =>
      cases holds
      rfl
  | idle | waiting call retried | finished call answer => cases holds

omit [DecidableEq W] in
theorem phases_updated {phase : UnitPhase} {phases : W → UnitPhase} [DecidableEq W]
    (sound : ∀ worker, (phases worker).Sound) (worker : W) (own : phase.Sound) :
    ∀ other, (Function.update phases worker phase other).Sound := by
  intro other
  by_cases here : other = worker
  · subst here
    rw [Function.update_self]
    exact own
  · rw [Function.update_of_ne here]
    exact sound other

theorem phaseAfter_sound (retried : Bool) (governed : call.Governed)
    (answer : Except MutationError PersistenceResult) :
    (phaseAfter call retried answer).Sound ∧ (phaseAfter call retried answer).held = none := by
  unfold phaseAfter
  split
  · split
    · exact ⟨governed, rfl⟩
    · exact ⟨trivial, rfl⟩
  · exact ⟨trivial, rfl⟩

omit [DecidableEq W] in
/-- What a worker holds is still what the tables show of the candidate that it changes. -/
theorem sound_commits (sound : s.Sound) {worker : W} {retried : Bool} {locks : List String}
    (holds : s.phase worker = .holding call retried locks before) {refusal : Option DeltaError}
    {result : PersistenceResult}
    (ran : attemptMutation refusal s.tables before call = (.ok result, next)) :
    CommittedMutation s.tables next before call result := by
  have own := sound.phases worker
  rw [holds] at own
  obtain ⟨governed, loadedFrom, tenantId, wellFormed, loaded, rfl⟩ := own
  refine attempt_commits (loaded_keyed wellFormed loaded) governed sound.wellFormed
    loaded.conversionIntentCandidates loaded.outbox ?_ ran
  intro m planned old found
  have locked := written_locked wellFormed loaded planned
  refine sound.current.shown worker (heldUnit (lockedCandidates loadedFrom call) before)
    m.candidateId old ?_ ?_
  · simp only [UnitSystem.units, holds]
    rfl
  · simp only [heldUnit, if_pos locked]
    exact found

theorem keyAdded_rows (added : KeyAdded t next) (candidateId : String) :
    next.rowsOf candidateId = t.rowsOf candidateId := by
  obtain ⟨_, _, rfl, _⟩ := added
  rfl

theorem keyAdded_wellFormed (added : KeyAdded t next) (wellFormed : t.WellFormed) :
    next.WellFormed := by
  obtain ⟨_, _, rfl, _⟩ := added
  exact ⟨wellFormed.keyed, wellFormed.owned, wellFormed.intents, wellFormed.outcomes⟩

theorem committed_wellFormed {result : PersistenceResult} (wellFormed : t.WellFormed)
    (committed : CommittedMutation t next before call result) : next.WellFormed := by
  cases committed with
  | answered _ _ added => exact keyAdded_wellFormed added wellFormed
  | written m event planned built written => exact written.wellFormed

/-- A commit leaves the rows of candidates that were not locked alone. -/
theorem committed_within {loadedFrom : SnapshotTables} {tenantId : Option String}
    {result : PersistenceResult} (wellFormed : loadedFrom.WellFormed)
    (loaded : LoadsSnapshot loadedFrom call tenantId before)
    (committed : CommittedMutation t next before call result) {candidateId : String}
    (unlocked : candidateId ∉ lockedCandidates loadedFrom call) :
    next.rowsOf candidateId = t.rowsOf candidateId := by
  cases committed with
  | answered _ _ added => exact keyAdded_rows added candidateId
  | written m event planned built written =>
      refine written.others candidateId ?_
      rintro rfl
      exact unlocked (written_locked wellFormed loaded planned)

theorem leave_current (sound : s.Sound) {worker : W} {phase : UnitPhase} (none : phase.held = none) :
    UnitsCurrent (UnitSystem.units ⟨s.tables, Function.update s.phase worker phase⟩) := by
  rw [units_updated, none]
  exact LockedUnits.Step.current (.leave worker) sound.current

theorem UnitStep.sound (step : UnitStep s after) (sound : s.Sound) : after.Sound := by
  cases step with
  | call worker call governed free =>
      exact ⟨sound.wellFormed, phases_updated sound.phases worker governed,
        leave_current sound rfl⟩
  | load worker call retried tenantId before waits free loaded =>
      have governed := sound.phases worker
      rw [waits] at governed
      refine ⟨sound.wellFormed, phases_updated sound.phases worker
        ⟨governed, s.tables, tenantId, sound.wellFormed, loaded, rfl⟩, ?_⟩
      rw [units_updated]
      refine LockedUnits.Step.current
        (.begin worker (heldUnit (lockedCandidates s.tables call) before) ?_ ?_ ?_) sound.current
      · intro other own different holds
        rw [held_locks holds]
        exact free other different
      · intro key value seen
        exact (heldUnit_seen seen).1
      · intro key value seen
        exact (loaded.records key value (heldUnit_seen seen).2).2.2
  | loadFails worker call retried raised waits =>
      have governed := sound.phases worker
      rw [waits] at governed
      obtain ⟨phase, none⟩ := phaseAfter_sound retried governed (.error (.delta raised))
      exact ⟨sound.wellFormed, phases_updated sound.phases worker phase, leave_current sound none⟩
  | attempt worker call retried locks before refusal holds =>
      have own := sound.phases worker
      rw [holds] at own
      obtain ⟨governed, loadedFrom, tenantId, wellFormed, loaded, rfl⟩ := own
      cases ran : attemptMutation refusal s.tables before call with
      | mk answer next =>
          obtain ⟨phase, none⟩ := phaseAfter_sound retried governed answer
          cases answer with
          | error raised =>
              rw [attempt_raises ran]
              exact ⟨sound.wellFormed, phases_updated sound.phases worker phase,
                leave_current sound none⟩
          | ok result =>
              have committed := sound_commits sound holds ran
              refine ⟨committed_wellFormed sound.wellFormed committed,
                phases_updated sound.phases worker phase, ?_⟩
              rw [units_updated, none]
              refine LockedUnits.Step.current
                (.commit worker (heldUnit (lockedCandidates loadedFrom call) before) next ?_ ?_)
                sound.current
              · simp only [UnitSystem.units, holds]
                rfl
              · intro key unlocked
                exact committed_within wellFormed loaded committed unlocked
  | outside next wellFormed kept =>
      refine ⟨wellFormed, sound.phases, LockedUnits.Step.current (.outside next ?_) sound.current⟩
      intro candidateId
      rcases kept candidateId with closed | ⟨stillOpen, candidate, lists⟩
      · exact Or.inl closed
      · refine Or.inr ⟨?_, ?_⟩
        · intro closed
          rw [UnitSystem.units, stillOpen] at closed
          cases closed
        · intro record shown
          refine ⟨?_, ?_⟩
          · rw [SnapshotTables.rowsOf, candidate]
            exact shown.candidate
          · rw [SnapshotTables.rowsOf, lists]
            exact shown.lists

omit [DecidableEq W] in
/-- Workers that have not been called yet. -/
theorem sound_idle (wellFormed : s.tables.WellFormed) (idle : ∀ worker, s.phase worker = .idle) :
    s.Sound := by
  refine ⟨wellFormed, ?_, .idle ?_⟩
  · intro worker
    rw [idle worker]
    trivial
  · intro worker
    simp only [UnitSystem.units, idle worker]
    rfl

theorem sound_after_run (run : Relation.ReflTransGen UnitStep s after) (sound : s.Sound) :
    after.Sound := by
  induction run with
  | refl => exact sound
  | tail _ step ih => exact step.sound ih

end Runs

end

section Sample

local instance unitsSha256 : Sha256 := Sha256.zeros

def emptyTables : SnapshotTables :=
  ⟨Dict.empty, Dict.empty, Dict.empty, Dict.empty, Dict.empty, Dict.empty, Dict.empty, Dict.empty,
    Dict.empty, Dict.empty, Dict.empty, Dict.empty, Dict.empty, Dict.empty⟩

def sampleUnitCall : MutationCall := .persistCandidate (samplePersistRequest "key" false 10)

theorem emptyTables_wellFormed : emptyTables.WellFormed where
  keyed := fun candidateId row found => by cases found
  owned := fun _ _ => rfl
  intents := fun key row found => by cases found
  outcomes := fun row member => by cases member

theorem emptyTables_loads : LoadsSnapshot emptyTables sampleUnitCall none IdeaRepository.empty where
  records := fun candidateId record found => by cases found
  absent := fun _ _ _ => Or.inl rfl
  idempotencyRecords := fun _ => rfl
  conversionIntentCandidates := rfl
  outbox := rfl
  submissions := rfl

def sampleIdleUnit : UnitSystem Unit := ⟨emptyTables, fun _ => .idle⟩

def sampleWaitingUnit : UnitSystem Unit :=
  ⟨emptyTables, Function.update sampleIdleUnit.phase () (.waiting sampleUnitCall false)⟩

def sampleHoldingUnit : UnitSystem Unit :=
  ⟨emptyTables, Function.update sampleWaitingUnit.phase () (.holding sampleUnitCall false
    (lockedCandidates emptyTables sampleUnitCall) IdeaRepository.empty)⟩

/-- A worker that is called, and loads from empty tables. -/
theorem sampleHoldingUnit_run : Relation.ReflTransGen UnitStep sampleIdleUnit sampleHoldingUnit := by
  have called : UnitStep sampleIdleUnit sampleWaitingUnit := .call () sampleUnitCall trivial rfl
  have waits : sampleWaitingUnit.phase () = .waiting sampleUnitCall false := rfl
  have loads : UnitStep sampleWaitingUnit sampleHoldingUnit :=
    .load () sampleUnitCall false none IdeaRepository.empty waits
      (fun other different => absurd rfl different) emptyTables_loads
  exact .tail (.single called) loads

end Sample

end LotusIdea

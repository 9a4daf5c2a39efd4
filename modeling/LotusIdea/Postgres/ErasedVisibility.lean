import LotusIdea.Postgres.DataLifecycleStore
import LotusIdea.Repository.RevokedAuthority

/-!
# Who sees an erased candidate

The candidates that the repository snapshot, the candidate detail, the review queue
and the effectiveness cohort select.  The first three go by the state under a hold;
the cohort goes by the state itself, so that it selects the tombstone of a candidate
that is held after its erasure.
-/

set_option autoImplicit false

namespace LotusIdea

open Sql

/-! ## Readers -/

namespace DataLifecycleControlFields

/-- `COALESCE(held_from_state, state, 'active') NOT IN ('erased', 'purged')` of a left
join, where the control may be missing. -/
def notErased (control : Option DataLifecycleControlFields) : Truth :=
  negate (oneOf (coalesce [control.bind fun c => c.heldFromState, control.map fun c => c.state,
    some .active]) [.erased, .purged])

/-- `COALESCE(held_from_state, state) = 'active'`. -/
def coveredActive (c : DataLifecycleControlFields) : Truth :=
  equal (coalesce [c.heldFromState, some c.state]) (some .active)

/-- `state IN ('active', 'held')`. -/
def activeOrHeld (c : DataLifecycleControlFields) : Truth := oneOf (some c.state) [.active, .held]

end DataLifecycleControlFields

structure EffectivenessWindow where
  tenantId : String
  windowStartUtc : DateTime
  windowEndUtc : DateTime
  boundedLimit : Nat

namespace LifecycleStore

/-- The rows of `_load_candidate_records`. -/
def snapshotCandidates (s : LifecycleStore) : List CandidateRow :=
  s.candidates.values.filter fun row =>
    DataLifecycleControlFields.notErased (s.controls.get? row.candidateId) = some true

/-- The row of `_load_base_candidate_record`. -/
def candidateDetail (s : LifecycleStore) (candidateId : String) : Option CandidateRow :=
  (s.candidates.get? candidateId).filter fun row =>
    (s.controls.get? row.candidateId).any fun control => control.coveredActive = some true

/-- The row of `_load_mutation_base_candidate_record`. -/
def mutationBase (s : LifecycleStore) (candidateId : String) : Option CandidateRow :=
  (s.candidates.get? candidateId).filter fun row =>
    DataLifecycleControlFields.notErased (s.controls.get? row.candidateId) = some true

/-- The rows of `base` in the queries of the review queue. -/
def reviewQueueBase (s : LifecycleStore) (evaluatedAtUtc : DateTime)
    (audience : ReviewQueueAudience) : List CandidateRow :=
  s.candidates.values.filter fun row => row.queueBase evaluatedAtUtc audience = some true

/-- The condition of `cohort` on a candidate and its control. -/
def inCohort (window : EffectivenessWindow) (row : CandidateRow)
    (control : DataLifecycleControlFields) : Truth :=
  conj
    [equal (some control.tenantId) (some window.tenantId),
     control.activeOrHeld,
     notAfter (some window.windowStartUtc) (some row.generatedAtUtc),
     later (some window.windowEndUtc) (some row.generatedAtUtc)]

/-- The rows of `cohort`. -/
def effectivenessCohort (s : LifecycleStore) (window : EffectivenessWindow) : List CandidateRow :=
  page ((s.candidates.values.filter fun row =>
      (s.controls.get? row.candidateId).any fun control => inCohort window row control = some true)
    |>.insertionSort fun a b => a.candidateId ≤ b.candidateId) window.boundedLimit 0

end LifecycleStore

/-! ## Holds and tombstones of a store -/

/-- The hold metadata of a control is there exactly while it is held, and names the
state that the hold lies over. -/
structure DataLifecycleControlFields.HoldShaped (c : DataLifecycleControlFields) : Prop where
  held : c.state = .held ↔ c.heldFromState.isSome = true
  free : c.heldFromState ≠ some .held

namespace DataLifecycleControlFields

theorem holdShaped_of_valid {c : DataLifecycleControlFields}
    (valid : firstFailure c.checks = none) : c.HoldShaped := by
  simp only [checks, firstFailure_append] at valid
  have hold := valid.1.2
  simp only [holdChecks] at hold
  split at hold
  · rename_i held
    simp only [firstFailure_append, firstFailure_cons, Bool.or_eq_false_iff,
      decide_eq_false_iff_not] at hold
    obtain ⟨⟨⟨⟨⟨former, _⟩, _⟩, _⟩, free, _⟩, _⟩ := hold
    refine ⟨⟨fun _ => ?_, fun _ => held⟩, free⟩
    simpa [← Option.not_isSome] using former
  · rename_i other
    simp only [firstFailure_cons, Bool.or_eq_false_iff] at hold
    obtain ⟨⟨⟨⟨former, _⟩, _⟩, _⟩, _⟩ := hold
    have none := Option.not_isSome_iff_eq_none.mp (by simpa using former)
    refine ⟨⟨fun held => absurd held other, fun some => ?_⟩, ?_⟩
    · rw [none] at some
      cases some
    · rw [none]
      exact (Option.some_ne_none _).symm

theorem HoldShaped.effectiveState_eq {c : DataLifecycleControlFields} (shaped : c.HoldShaped) :
    c.effectiveState = some c.coveredState := by
  rw [effectiveState, coveredState]
  cases former : c.heldFromState with
  | none =>
      have other : c.state ≠ .held := by
        intro held
        have there := shaped.held.mp held
        rw [former] at there
        cases there
      rw [if_neg other]
      rfl
  | some state =>
      rw [if_pos (shaped.held.mpr (by rw [former]; rfl))]
      rfl

end DataLifecycleControlFields

namespace LifecycleStore

/-- What holds of the row and the control that are stored under one id: both carry
the id, the control belongs to a candidate and is well shaped, and the candidate of
a tombstone has been redacted. -/
structure SoundAt (id : String) (row? : Option CandidateRow)
    (control? : Option DataLifecycleControlFields) : Prop where
  rowNamed : ∀ row ∈ row?, row.candidateId = id
  controlNamed : ∀ control ∈ control?, control.candidateId = id
  shaped : ∀ control ∈ control?, control.HoldShaped
  stored : ∀ control ∈ control?, row?.isSome = true
  redacted : ∀ row ∈ row?, ∀ control ∈ control?,
    DataLifecycleControlFields.isTombstone control.effectiveState = true →
    ∃ tombstone, row.candidateJson = redactedCandidateJson tombstone

def Sound (s : LifecycleStore) : Prop :=
  ∀ id, SoundAt id (s.candidates.get? id) (s.controls.get? id)

/-- Without a control only the row has to carry the id. -/
theorem soundAt_of_row {id : String} {row? : Option CandidateRow}
    (named : ∀ row ∈ row?, row.candidateId = id) : SoundAt id row? none where
  rowNamed := named
  controlNamed control absent := absurd absent (Option.not_mem_none control)
  shaped control absent := absurd absent (Option.not_mem_none control)
  stored control absent := absurd absent (Option.not_mem_none control)
  redacted _ _ control absent := absurd absent (Option.not_mem_none control)

theorem sound_empty : empty.Sound := by
  intro id
  have noRow : empty.candidates.get? id = none := Dict.get?_empty id
  have noControl : empty.controls.get? id = none := Dict.get?_empty id
  rw [noRow, noControl]
  exact soundAt_of_row fun row absent => absurd absent (Option.not_mem_none row)

/-- A store that differs from a sound one at one id is sound when it is there. -/
theorem Sound.update {s after : LifecycleStore} (sound : s.Sound) (key : String)
    (candidates : ∀ id, id ≠ key → after.candidates.get? id = s.candidates.get? id)
    (controls : ∀ id, id ≠ key → after.controls.get? id = s.controls.get? id)
    (here : SoundAt key (after.candidates.get? key) (after.controls.get? key)) : after.Sound := by
  intro id
  by_cases same : id = key
  · rw [same]
    exact here
  · rw [candidates id same, controls id same]
    exact sound id

theorem initialControl_shaped (record : CandidateWrite) (scope : ReviewAccessScope) :
    (initialControl record scope).HoldShaped where
  held := by simp [initialControl]
  free := by simp [initialControl]

theorem get?_redactCandidate_of_ne (s : LifecycleStore) (tombstone : String) {id candidateId : String}
    (other : id ≠ candidateId) :
    (s.redactCandidate candidateId tombstone).candidates.get? id = s.candidates.get? id := by
  rw [redactCandidate]
  split
  · rfl
  · exact Dict.get?_set_of_ne _ other

theorem get?_redactCandidate_self (s : LifecycleStore) (candidateId tombstone : String) :
    (s.redactCandidate candidateId tombstone).candidates.get? candidateId =
      (s.candidates.get? candidateId).map fun row =>
        { row with candidateJson := redactedCandidateJson tombstone } := by
  rw [redactCandidate]
  split
  · rename_i absent
    rw [absent]
    rfl
  · rename_i row stored
    rw [stored]
    exact Dict.get?_set_self _ _ _

section
variable [Sha256]

theorem writeCandidate_sound {s after : LifecycleStore} {record : CandidateWrite}
    (sound : s.Sound) (written : CandidateWritten s record after) : after.Sound := by
  cases written with
  | inserted absent candidates controls =>
      have before := sound record.candidate.val.candidateId
      have uncontrolled : s.controls.get? record.candidate.val.candidateId = none := by
        cases controlled : s.controls.get? record.candidate.val.candidateId with
        | none => rfl
        | some control =>
            have present := before.stored control controlled
            rw [absent] at present
            cases present
      refine sound.update record.candidate.val.candidateId (fun id other => ?_) (fun id other => ?_) ?_
      · rw [candidates, Dict.get?_set_of_ne _ other]
      · rcases controls with kept | ⟨scope, _, added⟩
        · rw [kept]
        · rw [added, Dict.get?_set_of_ne _ other]
      · rw [candidates, Dict.get?_set_self]
        rcases controls with kept | ⟨scope, _, added⟩
        · rw [kept, uncontrolled]
          refine soundAt_of_row ?_
          rintro row ⟨⟩
          rfl
        · rw [added, Dict.get?_set_self]
          refine ⟨?_, ?_, ?_, fun _ _ => rfl, ?_⟩
          · rintro row ⟨⟩
            rfl
          · rintro control ⟨⟩
            rfl
          · rintro control ⟨⟩
            exact initialControl_shaped record scope
          · rintro row _ control ⟨⟩ gone
            cases gone
  | updated row control stored controlled living candidates controls =>
      have before := sound record.candidate.val.candidateId
      rw [controlled] at before
      refine sound.update record.candidate.val.candidateId (fun id other => ?_) (fun id _ => by rw [controls]) ?_
      · rw [candidates, Dict.get?_set_of_ne _ other]
      · rw [candidates, controls, Dict.get?_set_self, controlled]
        refine ⟨?_, before.controlNamed, before.shaped, fun _ _ => rfl, ?_⟩
        · rintro row ⟨⟩
          rfl
        · rintro row _ control ⟨⟩ gone
          rw [(before.shaped _ rfl).effectiveState_eq] at gone
          exact absurd (by simpa [DataLifecycleControlFields.isTombstone] using gone) living

theorem applied_sound {s after : LifecycleStore} {command : DataLifecycleCommand}
    {work : CandidateWork} {evaluatedAtUtc : DateTime}
    {control projected : DataLifecycleControlFields} {redacted : Bool} (sound : s.Sound)
    (held : s.controls.get? command.val.candidateId = some control)
    (applied : s.Applied command work evaluatedAtUtc control projected redacted after) :
    after.Sound := by
  have before := sound command.val.candidateId
  rw [held] at before
  have named : projected.candidateId = command.val.candidateId := by
    rw [applied.subject.candidateId, before.controlNamed control rfl]
  obtain ⟨_, loaded, _, _, value⟩ := applied.admitted
  have effective := applied.transition.effective (by rw [← value]; exact loaded.valid)
  refine sound.update command.val.candidateId (fun id other => ?_) (fun id other => ?_) ?_
  · rw [applied.candidates]
    split
    · exact get?_redactCandidate_of_ne s _ other
    · rfl
  · rw [applied.controls, named, Dict.get?_set_of_ne _ other]
  · have present := before.stored control rfl
    obtain ⟨row, stored⟩ := Option.isSome_iff_exists.mp present
    have rowNamed := before.rowNamed row stored
    rw [applied.controls, named, Dict.get?_set_self, applied.candidates]
    cases redacted with
    | true =>
        simp only [if_true, get?_redactCandidate_self, stored, Option.map_some]
        refine ⟨?_, ?_, ?_, fun _ _ => rfl, ?_⟩
        · rintro row ⟨⟩
          exact rowNamed
        · rintro control ⟨⟩
          exact named
        · rintro control ⟨⟩
          exact DataLifecycleControlFields.holdShaped_of_valid applied.valid
        · rintro row ⟨⟩ control _ _
          exact ⟨_, rfl⟩
    | false =>
        simp only [Bool.false_eq_true, if_false, stored]
        refine ⟨?_, ?_, ?_, fun _ _ => rfl, ?_⟩
        · rintro row ⟨⟩
          exact rowNamed
        · rintro control ⟨⟩
          exact named
        · rintro control ⟨⟩
          exact DataLifecycleControlFields.holdShaped_of_valid applied.valid
        · rintro row ⟨⟩ control ⟨⟩ gone
          have goneBefore :
              DataLifecycleControlFields.isTombstone control.effectiveState = true := by
            rcases effective with same | ⟨⟨⟩, _⟩ | ⟨erased, _⟩
            · rwa [same] at gone
            · rw [erased]
              rfl
          exact before.redacted _ stored _ rfl goneBefore

theorem step_sound {s : LifecycleStore} (sound : s.Sound) (call : LifecycleCall) :
    (s.step call).Sound := by
  cases call with
  | write record =>
      rw [step]
      split
      · rename_i after run
        exact writeCandidate_sound sound (writeCandidate_ok run)
      · exact sound
  | execute command work evaluatedAtUtc =>
      rw [step]
      split
      · rename_i decision after run
        rcases executeDataLifecycle_ok run with ⟨candidates, controls⟩ |
          ⟨control, projected, redacted, held, applied⟩
        · intro id
          rw [candidates, controls]
          exact sound id
        · exact applied_sound sound held applied
      · exact sound

theorem run_sound (calls : List LifecycleCall) : (empty.run calls).Sound :=
  Runs.invariant step (fun _ => True) Sound (fun _ call _ sound => step_sound sound call)
    sound_empty fun _ _ => trivial

/-! ## Holds over tombstones -/

/-- The call would hold a candidate that is erased or purged: the command is fresh,
nothing blocks it, and the control it finds is in one of the two states. -/
def HoldsTombstone (s : LifecycleStore) : LifecycleCall → Prop
  | .write _ => False
  | .execute command work evaluatedAtUtc =>
      command.val.action = .applyHold ∧ command.val.dryRun = false ∧ s.Fresh command ∧
      ∃ context control, s.loadCandidateContext command.val.candidateId work = .ok context ∧
        LifecycleAdmitted command context evaluatedAtUtc control ∧
        (control.val.state = .erased ∨ control.val.state = .purged)

end

/-- No hold of the store lies over a tombstone. -/
def HoldsOverActive (s : LifecycleStore) : Prop :=
  ∀ id control, s.controls.get? id = some control → control.state = .held →
    control.effectiveState = some .active

theorem empty_holdsOverActive : empty.HoldsOverActive := by
  intro id control stored
  rw [show empty.controls.get? id = none from Dict.get?_empty id] at stored
  cases stored

section
variable [Sha256]

theorem step_holdsOverActive {s : LifecycleStore} (sound : s.Sound) (active : s.HoldsOverActive)
    {call : LifecycleCall} (spares : ¬ s.HoldsTombstone call) : (s.step call).HoldsOverActive := by
  cases call with
  | write record =>
      rw [step]
      split
      · rename_i after run
        cases writeCandidate_ok run with
        | inserted absent candidates controls =>
            rcases controls with kept | ⟨scope, _, added⟩
            · intro id control stored
              rw [kept] at stored
              exact active id control stored
            · rw [HoldsOverActive, added]
              refine Dict.forall_get?_set active ?_
              intro held
              cases held
        | updated row control stored controlled living candidates controls =>
            intro id control stored
            rw [controls] at stored
            exact active id control stored
      · exact active
  | execute command work evaluatedAtUtc =>
      rw [step]
      split
      · rename_i decision after run
        rcases executeDataLifecycle_ok run with ⟨_, controls⟩ |
          ⟨control, projected, redacted, held, applied⟩
        · intro id control stored
          rw [controls] at stored
          exact active id control stored
        · rw [HoldsOverActive, applied.controls]
          refine Dict.forall_get?_set active ?_
          intro nowHeld
          obtain ⟨context, loaded, load, admitted, value⟩ := applied.admitted
          have transition := applied.transition
          generalize taken : command.val.action = action at transition
          cases transition with
          | hold free _ former =>
              rw [DataLifecycleControlFields.effectiveState, if_pos nowHeld, former]
              have spared (gone : control.state = .erased ∨ control.state = .purged) : False :=
                spares ⟨taken, applied.wet, applied.fresh, context, loaded, load, admitted,
                  value.symm ▸ gone⟩
              cases state : control.state with
              | active => rfl
              | held => exact absurd state free
              | erased => exact absurd (.inl state) spared
              | purged => exact absurd (.inr state) spared
          | release under former _ =>
              rw [nowHeld] at former
              exact absurd former ((sound command.val.candidateId).shaped control held).free
          | erase _ gone _ =>
              rw [gone] at nowHeld
              cases nowHeld
          | purge _ gone _ =>
              rw [gone] at nowHeld
              cases nowHeld
      · exact active

theorem run_holdsOverActive {calls : List LifecycleCall}
    (spared : Runs.Throughout step (fun s call => ¬ s.HoldsTombstone call) empty calls) :
    (empty.run calls).HoldsOverActive := by
  have both := Runs.invariant_throughout step (fun s call => ¬ s.HoldsTombstone call)
    (fun s => s.Sound ∧ s.HoldsOverActive)
    (fun s call spares kept => ⟨step_sound kept.1 call, step_holdsOverActive kept.1 kept.2 spares⟩)
    ⟨sound_empty, empty_holdsOverActive⟩ spared
  exact both.2

/-- A call that would hold a tombstone does hold it. -/
theorem holdsTombstone_holds {s : LifecycleStore} (sound : s.Sound) {call : LifecycleCall}
    (holds : s.HoldsTombstone call) : ∃ id row control,
      (s.step call).candidates.get? id = some row ∧
      (s.step call).controls.get? id = some control ∧ control.state = .held ∧
      DataLifecycleControlFields.isTombstone control.effectiveState = true := by
  cases call with
  | write record => cases holds
  | execute command work evaluatedAtUtc =>
      obtain ⟨action, wet, fresh, context, control, load, admitted, gone⟩ := holds
      have held := loadCandidateContext_control load admitted.controlled
      have before := sound command.val.candidateId
      rw [held] at before
      obtain ⟨row, stored⟩ := Option.isSome_iff_exists.mp (before.stored _ rfl)
      have free : control.val.state ≠ .held := by
        rcases gone with state | state <;> simp [state]
      obtain ⟨evaluation, evaluated, decision⟩ :=
        @evaluateHold_free command control evaluatedAtUtc free admitted.utc
      rw [wet] at decision
      have run : evaluateAction command context control evaluatedAtUtc = .ok evaluation := by
        simp only [evaluateAction, action]
        exact evaluated
      obtain ⟨projected, found, _, subject, transition⟩ := evaluateAction_applied run decision
      generalize redacted : evaluation.redactionRequired = redact at transition
      rw [action] at transition
      cases transition with
      | hold _ nowHeld former =>
          rw [← evaluateDataLifecycle_admitted admitted] at run
          obtain ⟨result, after, applied, candidates, controls⟩ :=
            executeDataLifecycle_of_fresh fresh load run decision found redacted
          have named : projected.val.candidateId = command.val.candidateId := by
            rw [subject.candidateId, before.controlNamed _ rfl]
          refine ⟨command.val.candidateId, row, projected.val, ?_, ?_, nowHeld, ?_⟩
          · simp only [step, applied, candidates, stored]
          · simp only [step, applied, controls, named, Dict.get?_set_self]
          · rw [DataLifecycleControlFields.effectiveState, if_pos nowHeld, former]
            rcases gone with state | state <;> rw [state] <;> rfl

end

/-! ## What the readers select -/

end LifecycleStore

namespace DataLifecycleControlFields
variable {c : DataLifecycleControlFields}

theorem HoldShaped.coveredState_ne_held (shaped : c.HoldShaped) : c.coveredState ≠ .held := by
  rw [coveredState]
  cases former : c.heldFromState with
  | none =>
      intro held
      have there := shaped.held.mp held
      rw [former] at there
      cases there
  | some state =>
      intro held
      exact shaped.free (by rw [former]; exact congrArg some held)

theorem HoldShaped.notErased_iff (shaped : c.HoldShaped) :
    notErased (some c) = some true ↔ c.effectiveState = some .active := by
  have covered : coalesce [(some c).bind fun c => c.heldFromState, (some c).map fun c => c.state,
      some .active] = some c.coveredState := by
    rw [coveredState]
    cases former : c.heldFromState <;> simp [former]
  have free := shaped.coveredState_ne_held
  rw [notErased, covered, shaped.effectiveState_eq]
  cases state : c.coveredState with
  | held => exact absurd state free
  | active | erased | purged => simp

theorem HoldShaped.coveredActive_iff (shaped : c.HoldShaped) :
    c.coveredActive = some true ↔ c.effectiveState = some .active := by
  have covered : coalesce [c.heldFromState, some c.state] = some c.coveredState := by
    rw [coveredState]
    cases c.heldFromState <;> rfl
  rw [coveredActive, covered, shaped.effectiveState_eq]
  simp

/-- The cohort goes by the state that a hold covers. -/
theorem HoldShaped.activeOrHeld_iff (shaped : c.HoldShaped) :
    c.activeOrHeld = some true ↔ c.state = .held ∨ c.effectiveState = some .active := by
  rw [activeOrHeld, shaped.effectiveState_eq, coveredState]
  cases former : c.heldFromState with
  | none => simp [or_comm]
  | some state =>
      have held := shaped.held.mpr (by rw [former]; rfl)
      simp [held]

end DataLifecycleControlFields

namespace LifecycleStore

theorem queueBase_redacted {row : CandidateRow} {tombstone : String}
    (redacted : row.candidateJson = redactedCandidateJson tombstone) (evaluatedAtUtc : DateTime)
    (audience : ReviewQueueAudience) : row.queueBase evaluatedAtUtc audience ≠ some true := by
  have noTime : row.text "created_at_utc" = none := by
    simp [CandidateRow.text, arrowText, redacted, redactedCandidateJson]
  simp [CandidateRow.queueBase, CandidateRow.createdAtUtc, noTime, timestamptz]

/-- Every reader goes by the effective state of the candidate: the first three and the
cohort, for some window, select exactly the active candidates, and the review queue
starts from no other. -/
structure ReadersFollow (s : LifecycleStore) (row : CandidateRow)
    (control : DataLifecycleControlFields) : Prop where
  snapshot : row ∈ s.snapshotCandidates ↔ control.effectiveState = some .active
  detail : s.candidateDetail row.candidateId = some row ↔ control.effectiveState = some .active
  mutationBase : s.mutationBase row.candidateId = some row ↔
    control.effectiveState = some .active
  cohort : (∃ window, row ∈ s.effectivenessCohort window) ↔
    control.effectiveState = some .active
  queue : ∀ evaluatedAtUtc audience, row ∈ s.reviewQueueBase evaluatedAtUtc audience →
    control.effectiveState = some .active

/-- The readers go by the effective state of every candidate that has a control. -/
def VisibilityFollows (s : LifecycleStore) : Prop :=
  ∀ id row control, s.candidates.get? id = some row → s.controls.get? id = some control →
    s.ReadersFollow row control

section
variable {s : LifecycleStore} {id : String} {row : CandidateRow}
  {control : DataLifecycleControlFields}

theorem cohort_iff (sound : s.Sound) (stored : s.candidates.get? id = some row)
    (controlled : s.controls.get? id = some control) :
    (∃ window, row ∈ s.effectivenessCohort window) ↔
      control.state = .held ∨ control.effectiveState = some .active := by
  have here := sound id
  rw [stored, controlled] at here
  have named := here.rowNamed row rfl
  rw [← (here.shaped control rfl).activeOrHeld_iff]
  constructor
  · rintro ⟨window, member⟩
    simp only [effectivenessCohort, page, List.drop_zero] at member
    have selected := (List.mem_insertionSort _).mp (List.mem_of_mem_take member)
    rw [List.mem_filter, named, controlled] at selected
    have inside := selected.2
    simp only [Option.any_some, decide_eq_true_eq, inCohort, conj_cons_true] at inside
    exact inside.2.1
  · intro living
    refine ⟨⟨control.tenantId, row.generatedAtUtc, row.generatedAtUtc.shift 1,
      s.candidates.values.length⟩, ?_⟩
    simp only [effectivenessCohort, page, List.drop_zero]
    rw [List.take_of_length_le]
    · rw [List.mem_insertionSort, List.mem_filter, named, controlled]
      refine ⟨Dict.mem_values_of_get? stored, ?_⟩
      simp [inCohort, living, DateTime.shift]
    · rw [List.length_insertionSort]
      exact List.length_filter_le _ _

theorem readersFollow (sound : s.Sound) (active : s.HoldsOverActive)
    (stored : s.candidates.get? id = some row) (controlled : s.controls.get? id = some control) :
    s.ReadersFollow row control := by
  have here := sound id
  rw [stored, controlled] at here
  have named := here.rowNamed row rfl
  have shaped := here.shaped control rfl
  refine ⟨?_, ?_, ?_, ?_, ?_⟩
  · rw [snapshotCandidates, List.mem_filter, named, controlled, decide_eq_true_eq,
      shaped.notErased_iff]
    exact and_iff_right (Dict.mem_values_of_get? stored)
  · rw [candidateDetail, named, stored, ← shaped.coveredActive_iff]
    simp [Option.filter, named, controlled]
  · rw [mutationBase, named, stored, ← shaped.notErased_iff]
    simp [Option.filter, named, controlled]
  · rw [cohort_iff sound stored controlled]
    exact or_iff_right_of_imp (active id control controlled)
  · intro evaluatedAtUtc audience member
    rw [shaped.effectiveState_eq]
    have selected := (List.mem_filter.mp member).2
    cases state : control.coveredState with
    | active => rfl
    | held => exact absurd state shaped.coveredState_ne_held
    | erased | purged =>
        have gone : DataLifecycleControlFields.isTombstone control.effectiveState = true := by
          rw [shaped.effectiveState_eq, state]
          rfl
        obtain ⟨tombstone, redacted⟩ := here.redacted row rfl control rfl gone
        exact absurd (by simpa using selected) (queueBase_redacted redacted evaluatedAtUtc audience)

end

section
variable [Sha256]

/-- The readers go by the effective state after every call of a run exactly when no
call holds a candidate that is erased or purged. -/
theorem erased_invisible_iff (calls : List LifecycleCall) :
    (∀ first, first <+: calls → (empty.run first).VisibilityFollows) ↔
      Runs.Throughout step (fun s call => ¬ s.HoldsTombstone call) empty calls := by
  constructor
  · intro follows
    rw [Runs.throughout_iff]
    rintro first call later rfl holds
    obtain ⟨id, row, control, stored, controlled, held, gone⟩ :=
      holdsTombstone_holds (run_sound first) holds
    have next : empty.run (first ++ [call]) = (empty.run first).step call :=
      Runs.run_concat step empty first call
    rw [← next] at stored controlled
    have visible := follows (first ++ [call]) ⟨later, by simp⟩ id row control stored controlled
    have selected := (cohort_iff (run_sound _) stored controlled).mpr (.inl held)
    rw [visible.cohort.mp selected] at gone
    cases gone
  · rintro spared first ⟨later, rfl⟩ id row control stored controlled
    exact readersFollow (run_sound first) (run_holdsOverActive (Runs.throughout_append.mp spared).1)
      stored controlled

end

/-! ## A candidate that is held after its erasure -/

def sampleWritten : LifecycleCall :=
  .write
    { candidate := sampleCandidate false, evidenceHash := sampleDigest 'b'
      persistedAtUtc := .utc 10 }

def sampleEraseCommand : DataLifecycleCommand where
  val :=
    { candidateId := "idea-1", tenantId := "tenant-a", action := .erase
      actorSubject := "operator-1", authorityRef := "bank-privacy-governance:decision-1"
      reason := "erasure-request", changeReference := "change-1", idempotencyKey := "erase-1"
      requestFingerprint := "fingerprint-1", correlationId := "correlation-1"
      traceId := "trace-1", requestedAtUtc := .utc 20, dryRun := false
      approverSubject := some "approver-1" }
  valid := by decide +kernel

def sampleHoldCommand : DataLifecycleCommand where
  val :=
    { candidateId := "idea-1", tenantId := "tenant-a", action := .applyHold
      actorSubject := "operator-1"
      authorityRef := "bank-legal-and-records-governance:decision-2"
      reason := "legal-hold", changeReference := "change-2", idempotencyKey := "hold-1"
      requestFingerprint := "fingerprint-2", correlationId := "correlation-2"
      traceId := "trace-2", requestedAtUtc := .utc 30, dryRun := false }
  valid := by decide +kernel

def sampleIdleWork : CandidateWork where
  activeOutboxCount := 0
  activeDownstreamCount := 0
  linkedReportEvidencePackIds := []

def sampleErasedThenHeld : List LifecycleCall :=
  [sampleWritten, .execute sampleEraseCommand sampleIdleWork (.utc 20),
   .execute sampleHoldCommand sampleIdleWork (.utc 30)]

section Sample

/-- The digests of the two keys, whose operations have ids of their own. -/
local instance erasedSha256 : Sha256 :=
  Sha256.tabled
    [("erase-1", "86abd8f3c8ba2fd083b6ecb355f2a788927061af0270326e7afb1bb6c55b927c"),
     ("hold-1", "eee747155659e77fdd5a617db0dad615cfe4d493641d10446a950d4439c716e9")]
    fun digits _ => String.ofList (List.replicate digits '0')

set_option maxRecDepth 10000 in
theorem sampleErasedThenHeld_stored :
    ((empty.run sampleErasedThenHeld).candidates.get? "idea-1").isSome = true ∧
    ((empty.run sampleErasedThenHeld).controls.get? "idea-1").any (fun control =>
      decide (control.state = .held) && decide (control.effectiveState = some .erased)) = true := by
  decide +kernel

/-- The cohort of some window selects the erased candidate under the hold. -/
theorem erased_under_hold_selected :
    ¬ (empty.run sampleErasedThenHeld).VisibilityFollows ∧
    ∃ row control window, (empty.run sampleErasedThenHeld).candidates.get? "idea-1" = some row ∧
      (empty.run sampleErasedThenHeld).controls.get? "idea-1" = some control ∧
      control.effectiveState = some .erased ∧
      row ∈ (empty.run sampleErasedThenHeld).effectivenessCohort window := by
  obtain ⟨present, reads⟩ := sampleErasedThenHeld_stored
  obtain ⟨row, stored⟩ := Option.isSome_iff_exists.mp present
  obtain ⟨control, controlled, reads⟩ := (Option.any_eq_true _ _).mp reads
  simp only [Bool.and_eq_true, decide_eq_true_eq] at reads
  obtain ⟨held, erased⟩ := reads
  have selected := (cohort_iff (run_sound sampleErasedThenHeld) stored controlled).mpr (.inl held)
  constructor
  · intro follows
    have living := (follows "idea-1" row control stored controlled).cohort.mp selected
    rw [erased] at living
    cases living
  · obtain ⟨window, member⟩ := selected
    exact ⟨row, control, window, stored, controlled, erased, member⟩

end Sample

end LifecycleStore
end LotusIdea

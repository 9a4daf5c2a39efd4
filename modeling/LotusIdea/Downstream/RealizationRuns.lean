import LotusIdea.Domain.Realization
import LotusIdea.Foundation.CarriedValues
import LotusIdea.Foundation.Runs

/-!
# Realization histories over runs

`persistence_advise_realization.py` and `persistence_manage_realization.py`: the stored
histories under the support references of their submissions.  A stored history is only
ever replaced by one that extends it.
-/

set_option autoImplicit false

namespace LotusIdea

section
variable [Sha256]

/-! ## Persistence -/

namespace RealizationOwner

variable {η ε : Type} [DecidableEq η] [DecidableEq ε] (owner : RealizationOwner η ε)

/-- `persist_…_realization_history`. -/
def persist (submissions : SubmissionStore) (histories : Dict String η)
    (supportReference : String) (history : η) :
    Except PyError owner.MutationResult × Dict String η :=
  match submissions.downstreamSubmissionBySupportReference supportReference with
  | .error raised => (.error raised, histories)
  | .ok none =>
      (Checked.make _
        { decision := .notFound, history := none
          blocker := some "downstream_submission_not_found" }, histories)
  | .ok (some submission) =>
      match owner.submissionBlocker submission history with
      | some blocker =>
          (Checked.make _
            { decision := .conflict, history := histories.get? supportReference
              blocker := some blocker }, histories)
      | none =>
          let existing := histories.get? supportReference
          (Checked.make _ (owner.answer existing history),
            if owner.evaluate existing history = .accepted then
              histories.set supportReference history
            else histories)

end RealizationOwner

/-- The part of the in-memory repository that keeps realization histories. -/
structure RealizationRepository where
  submissions : SubmissionStore
  adviseRealizationHistories : Dict String AdviseProposalRealizationHistory
  manageRealizationHistories : Dict String ManageActionRealizationHistory

inductive RealizationCall where
  | persistAdvise (supportReference : String) (history : AdviseProposalRealizationHistory)
  | persistManage (supportReference : String) (history : ManageActionRealizationHistory)

namespace RealizationRepository

def start (submissions : SubmissionStore) : RealizationRepository :=
  ⟨submissions, Dict.empty, Dict.empty⟩

def persistAdviseRealizationHistory (s : RealizationRepository) (supportReference : String)
    (history : AdviseProposalRealizationHistory) :
    Except PyError adviseRealizationOwner.MutationResult × RealizationRepository :=
  let (result, histories) := adviseRealizationOwner.persist s.submissions
    s.adviseRealizationHistories supportReference history
  (result, { s with adviseRealizationHistories := histories })

def persistManageRealizationHistory (s : RealizationRepository) (supportReference : String)
    (history : ManageActionRealizationHistory) :
    Except PyError manageRealizationOwner.MutationResult × RealizationRepository :=
  let (result, histories) := manageRealizationOwner.persist s.submissions
    s.manageRealizationHistories supportReference history
  (result, { s with manageRealizationHistories := histories })

def step (s : RealizationRepository) : RealizationCall → RealizationRepository
  | .persistAdvise supportReference history =>
      (s.persistAdviseRealizationHistory supportReference history).2
  | .persistManage supportReference history =>
      (s.persistManageRealizationHistory supportReference history).2

def run (s : RealizationRepository) (calls : List RealizationCall) : RealizationRepository :=
  Runs.run step s calls

end RealizationRepository

/-! ## What an owner's histories obey -/

namespace RealizationOwner

variable {η ε : Type} {owner : RealizationOwner η ε}

/-- An extension of a history is blocked by no receipt that does not block the history. -/
theorem submissionBlocker_extends (lawful : owner.Lawful) {old new : η}
    (extended : owner.Extends old new) {submission : DownstreamSubmissionRecord}
    (free : owner.submissionBlocker submission old = none) :
    owner.submissionBlocker submission new = none := by
  have grown := extended.grown.length_le
  have before := lawful.counts old
  have after := lawful.counts new
  rw [submissionBlocker] at free ⊢
  rw [← lawful.requestId old new extended.identity, ← lawful.realizationId old new extended.identity,
    ← lawful.fingerprint old new extended.identity, ← lawful.intent old new extended.identity,
    ← lawful.work old new extended]
  split_ifs at free ⊢
  split at free
  · cases free
  split at free
  · cases free
  split_ifs at free ⊢
  · omega
  · rfl

section
variable [DecidableEq η] [DecidableEq ε]

/-- How a stored history answers another one under its support reference. -/
inductive Answered (owner : RealizationOwner η ε) (histories : Dict String η)
    (supportReference : String) (old new : η) :
    Except PyError owner.MutationResult × Dict String η → Prop where
  | replayed (result : owner.MutationResult) (same : new = old)
      (decision : result.val.decision = .replayed) :
      Answered owner histories supportReference old new (.ok result, histories)
  | accepted (result : owner.MutationResult) (extended : owner.ProperlyExtends old new)
      (decision : result.val.decision = .accepted) :
      Answered owner histories supportReference old new
        (.ok result, histories.set supportReference new)
  | conflict (result : owner.MutationResult) (other : new ≠ old)
      (diverging : ¬ owner.ProperlyExtends old new)
      (decision : result.val.decision = .conflict) :
      Answered owner histories supportReference old new (.ok result, histories)

/-- The submission of every stored history is there and does not block it. -/
def Unblocked (owner : RealizationOwner η ε) (submissions : SubmissionStore)
    (histories : Dict String η) : Prop :=
  ∀ supportReference old, histories.get? supportReference = some old →
    ∃ submission, submissions.downstreamSubmissionBySupportReference supportReference =
      .ok (some submission) ∧ owner.submissionBlocker submission old = none

section
variable {submissions : SubmissionStore} {histories : Dict String η} {supportReference : String}

theorem persist_answered (lawful : owner.Lawful) (unblocked : owner.Unblocked submissions histories)
    {old : η} (stored : histories.get? supportReference = some old) (new : η) :
    owner.Answered histories supportReference old new
      (owner.persist submissions histories supportReference new) := by
  obtain ⟨submission, found, free⟩ := unblocked supportReference old stored
  have made := Checked.make_of_valid (answer_valid lawful (some old) new)
  by_cases same : new = old
  · subst same
    have decision : owner.evaluate (some new) new = .replayed := evaluate_replayed.mpr rfl
    simp only [persist, found, free, stored, made, decision, reduceCtorEq, if_false]
    exact .replayed _ rfl decision
  by_cases extended : owner.ProperlyExtends old new
  · have decision := (evaluate_accepted lawful).mpr extended
    have open_ := submissionBlocker_extends lawful extended.1 free
    simp only [persist, found, open_, stored, made, decision, if_true]
    exact .accepted _ extended decision
  · have decision : owner.evaluate (some old) new = .conflict := by
      have notReplayed : owner.evaluate (some old) new ≠ .replayed :=
        fun decided => same (evaluate_replayed.mp decided).symm
      have notAccepted : owner.evaluate (some old) new ≠ .accepted :=
        fun decided => extended ((evaluate_accepted lawful).mp decided)
      have notNotFound : owner.evaluate (some old) new ≠ .notFound := evaluate_found _ _
      cases decided : owner.evaluate (some old) new with
      | conflict => rfl
      | accepted => exact absurd decided notAccepted
      | replayed => exact absurd decided notReplayed
      | notFound => exact absurd decided notNotFound
    cases blocked : owner.submissionBlocker submission new with
    | some blocker =>
        have refused := Checked.make_of_valid (RealizationMutationFields.refused_valid owner.recordName
          (some old) (some blocker))
        simp only [persist, found, blocked, stored, refused]
        exact .conflict _ same extended rfl
    | none =>
        simp only [persist, found, blocked, stored, made, decision, reduceCtorEq, if_false]
        exact .conflict _ same extended decision

/-- A persist leaves the histories, or stores one that is not blocked over none or
over one that it extends. -/
theorem persist_stores (lawful : owner.Lawful) (history : η) :
    (owner.persist submissions histories supportReference history).2 = histories ∨
    (owner.persist submissions histories supportReference history).2 =
        histories.set supportReference history ∧
      (∃ submission, submissions.downstreamSubmissionBySupportReference supportReference =
        .ok (some submission) ∧ owner.submissionBlocker submission history = none) ∧
      ∀ old, histories.get? supportReference = some old → owner.Extends old history := by
  unfold persist
  split
  · exact Or.inl rfl
  · exact Or.inl rfl
  rename_i submission found
  split
  · exact Or.inl rfl
  rename_i free
  by_cases accepted : owner.evaluate (histories.get? supportReference) history = .accepted
  · right
    refine ⟨if_pos accepted, ⟨submission, found, free⟩, ?_⟩
    intro old stored
    rw [stored] at accepted
    exact ((evaluate_accepted lawful).mp accepted).1
  · exact Or.inl (if_neg accepted)

theorem unblocked_after_persist (lawful : owner.Lawful)
    (unblocked : owner.Unblocked submissions histories) (history : η) :
    owner.Unblocked submissions
      (owner.persist submissions histories supportReference history).2 := by
  rcases persist_stores lawful history with same | ⟨stores, free, _⟩
  · rw [same]
    exact unblocked
  · rw [stores]
    exact Dict.forall_get?_set unblocked free

theorem carries_after_persist (lawful : owner.Lawful) (history : η) :
    histories.Carries owner.Extends
      (owner.persist submissions histories supportReference history).2 := by
  rcases persist_stores lawful history with same | ⟨stores, _, extended⟩
  · rw [same]
    exact Dict.carries_refl extends_refl _
  · rw [stores]
    exact (Dict.carries_set extends_refl).mpr extended

end

end

end RealizationOwner

/-! ## Over a run -/

namespace RealizationRepository

/-- Every history of either owner is extended. -/
structure Grows (s t : RealizationRepository) : Prop where
  advise : s.adviseRealizationHistories.Carries adviseRealizationOwner.Extends
    t.adviseRealizationHistories
  manage : s.manageRealizationHistories.Carries manageRealizationOwner.Extends
    t.manageRealizationHistories

/-- The submissions of all stored histories are as the run found them. -/
structure Consistent (submissions : SubmissionStore) (s : RealizationRepository) : Prop where
  same : s.submissions = submissions
  advise : adviseRealizationOwner.Unblocked submissions s.adviseRealizationHistories
  manage : manageRealizationOwner.Unblocked submissions s.manageRealizationHistories

/-- A history that is stored under a support reference answers every other one there:
the same is replayed, a proper extension is accepted, and all else is a conflict that
changes nothing. -/
structure AnswersStored (s : RealizationRepository) : Prop where
  advise : ∀ supportReference old history,
    s.adviseRealizationHistories.get? supportReference = some old →
    ∃ histories, adviseRealizationOwner.Answered s.adviseRealizationHistories supportReference old
        history ((s.persistAdviseRealizationHistory supportReference history).1, histories) ∧
      (s.persistAdviseRealizationHistory supportReference history).2 =
        { s with adviseRealizationHistories := histories }
  manage : ∀ supportReference old history,
    s.manageRealizationHistories.get? supportReference = some old →
    ∃ histories, manageRealizationOwner.Answered s.manageRealizationHistories supportReference old
        history ((s.persistManageRealizationHistory supportReference history).1, histories) ∧
      (s.persistManageRealizationHistory supportReference history).2 =
        { s with manageRealizationHistories := histories }

theorem grows_refl (s : RealizationRepository) : s.Grows s :=
  ⟨Dict.carries_refl RealizationOwner.extends_refl _,
    Dict.carries_refl RealizationOwner.extends_refl _⟩

theorem grows_trans (s t u : RealizationRepository) (first : s.Grows t) (second : t.Grows u) :
    s.Grows u :=
  ⟨Dict.carries_trans (fun _ _ _ => RealizationOwner.extends_trans) first.advise second.advise,
    Dict.carries_trans (fun _ _ _ => RealizationOwner.extends_trans) first.manage second.manage⟩

theorem grows_step (s : RealizationRepository) (call : RealizationCall) : s.Grows (s.step call) := by
  cases call with
  | persistAdvise supportReference history =>
      exact ⟨RealizationOwner.carries_after_persist adviseRealizationOwner_lawful history,
        Dict.carries_refl RealizationOwner.extends_refl _⟩
  | persistManage supportReference history =>
      exact ⟨Dict.carries_refl RealizationOwner.extends_refl _,
        RealizationOwner.carries_after_persist manageRealizationOwner_lawful history⟩

theorem consistent_start (submissions : SubmissionStore) :
    (start submissions).Consistent submissions := by
  refine ⟨rfl, ?_, ?_⟩
  all_goals
    intro supportReference old stored
    cases stored

theorem consistent_step {submissions : SubmissionStore} {s : RealizationRepository}
    (consistent : s.Consistent submissions) (call : RealizationCall) :
    (s.step call).Consistent submissions := by
  obtain ⟨rfl, advise, manage⟩ := consistent
  cases call with
  | persistAdvise supportReference history =>
      exact ⟨rfl, RealizationOwner.unblocked_after_persist adviseRealizationOwner_lawful advise
        history, manage⟩
  | persistManage supportReference history =>
      exact ⟨rfl, advise, RealizationOwner.unblocked_after_persist manageRealizationOwner_lawful
        manage history⟩

theorem answersStored_of_consistent {submissions : SubmissionStore} {s : RealizationRepository}
    (consistent : s.Consistent submissions) : s.AnswersStored := by
  obtain ⟨rfl, advise, manage⟩ := consistent
  refine ⟨?_, ?_⟩
  · intro supportReference old history stored
    exact ⟨_, RealizationOwner.persist_answered adviseRealizationOwner_lawful advise stored history,
      rfl⟩
  · intro supportReference old history stored
    exact ⟨_, RealizationOwner.persist_answered manageRealizationOwner_lawful manage stored history,
      rfl⟩

end RealizationRepository

end

end LotusIdea

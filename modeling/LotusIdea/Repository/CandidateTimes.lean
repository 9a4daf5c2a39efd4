import LotusIdea.Repository.CarriedRecords

/-!
# The times of a candidate over runs

A reconciliation takes the later of the stored update time and its own; transitions,
reviews and conversions take their own.  `KeepsTime` is the condition on a call, in
the state in which it is made, under which the update time of no candidate falls.
-/

set_option autoImplicit false

namespace LotusIdea

open IdeaRepository (PersistRequest LifecycleRequest TransitionRequest ResultRequest LineageRequest)

/-! ## What one operation makes of the times -/

/-- The creation time is kept and the update time does not fall. -/
structure TimesForward (old new : IdeaCandidate) : Prop where
  created : new.val.createdAtUtc.instant = old.val.createdAtUtc.instant
  updated : old.val.updatedAtUtc ≤ new.val.updatedAtUtc

theorem timesForward_self (c : IdeaCandidate) : TimesForward c c :=
  ⟨rfl, Int.le_refl _⟩

theorem timesForward_trans {a b c : IdeaCandidate} (before : TimesForward a b)
    (after : TimesForward b c) : TimesForward a c :=
  ⟨after.created.trans before.created, Int.le_trans before.updated after.updated⟩

/-- An operation that keeps the creation time and sets the update time to its own. -/
structure TimedAt (old new : IdeaCandidate) (time : DateTime) : Prop where
  created : new.val.createdAtUtc = old.val.createdAtUtc
  updated : new.val.updatedAtUtc = time

theorem TimedAt.forward_iff {old source new : IdeaCandidate} {time : DateTime}
    (timed : TimedAt source new time) (same : old.equals source = true) :
    TimesForward old new ↔ old.val.updatedAtUtc ≤ time := by
  have created : old.val.createdAtUtc.instant = source.val.createdAtUtc.instant :=
    IdeaCandidate.congr_of_equals same (fun c => c.val.createdAtUtc.instant) fun _ => rfl
  constructor
  · intro forward
    rw [← timed.updated]
    exact forward.updated
  · intro later
    exact ⟨by rw [timed.created, created], by rw [timed.updated]; exact later⟩

theorem transitionCandidate_timed {candidate moved : IdeaCandidate}
    {targetStatus : IdeaLifecycleStatus} {updatedAtUtc : DateTime}
    (run : transitionCandidate candidate targetStatus updatedAtUtc = .ok moved) :
    TimedAt candidate moved updatedAtUtc := by
  obtain ⟨_, posture, fields⟩ := transitionCandidate_returns run
  exact ⟨by rw [fields], by rw [fields]⟩

theorem candidateAfterReview_timed {candidate updated : IdeaCandidate}
    {command : ReviewDecisionCommand} {acceptedAtUtc : DateTime}
    (run : candidateAfterReview candidate command acceptedAtUtc = .ok updated) :
    TimedAt candidate updated acceptedAtUtc := by
  unfold candidateAfterReview at run
  split at run
  · obtain ⟨_, _, run⟩ := Except.seq_returns.mp run
    obtain ⟨reviewed, first, run⟩ := Except.seq_returns.mp run
    obtain ⟨approved, second, run⟩ := Except.seq_returns.mp run
    have kept : reviewed.val.createdAtUtc = candidate.val.createdAtUtc := by
      unfold reviewedByAdvisor at first
      split at first
      · exact (transitionCandidate_timed first).created
      · cases first
        rfl
      · cases first
    have fields := Checked.make_eq_ok.mp run
    refine ⟨?_, by rw [fields]⟩
    rw [fields]
    exact (transitionCandidate_timed second).created.trans kept
  · obtain ⟨_, _, run⟩ := Except.seq_returns.mp run
    obtain ⟨rejected, moved, run⟩ := Except.seq_returns.mp run
    have timed := transitionCandidate_timed moved
    rw [← timed.updated]
    exact ⟨by rw [Checked.make_eq_ok.mp run]; exact timed.created,
      by rw [Checked.make_eq_ok.mp run]⟩
  · obtain ⟨_, _, run⟩ := Except.seq_returns.mp run
    obtain ⟨closed, moved, run⟩ := Except.seq_returns.mp run
    have timed := transitionCandidate_timed moved
    rw [← timed.updated]
    exact ⟨by rw [Checked.make_eq_ok.mp run]; exact timed.created,
      by rw [Checked.make_eq_ok.mp run]⟩
  all_goals
    have fields := Checked.make_eq_ok.mp run
    exact ⟨by rw [fields], by rw [fields]⟩

theorem le_later (a b : DateTime) : a ≤ DateTime.later a b := by
  rw [DateTime.later]
  split
  · rename_i below
    exact Int.le_of_lt below
  · exact Int.le_refl _

/-- Every reconciled candidate was created with the stored one and updated no earlier. -/
theorem reconcileCandidate_forward {existing incoming next : IdeaCandidate}
    {existingEvidenceHash incomingEvidenceHash : String} {occurredAtUtc : DateTime}
    {result : CandidateReconciliation}
    (run : reconcileCandidate existing incoming existingEvidenceHash incomingEvidenceHash
      occurredAtUtc = .ok result) (held : result.candidate = some next) :
    TimesForward existing next := by
  cases reconcileCandidate_reconciled run held with
  | refreshed identity stays made =>
      have fields := Checked.make_eq_ok.mp made
      exact ⟨by rw [fields], by rw [fields]; exact le_later _ _⟩
  | renewed reason starts made =>
      simp only [newMaterialVersion] at made
      obtain ⟨identity, _, made⟩ := Except.seq_returns.mp made
      have fields := Checked.make_eq_ok.mp made
      exact ⟨by rw [fields], by rw [fields]; exact le_later _ _⟩

section
variable [Sha256]

theorem applyReviewAction_timed {candidate : IdeaCandidate} {command : ReviewDecisionCommand}
    {acceptedAtUtc : DateTime} {receipt : Option CandidatePresentationReceipt}
    {policy : ReviewActionPolicy} {result : ReviewActionResult}
    (run : applyReviewAction candidate command acceptedAtUtc receipt policy = .ok result) :
    TimedAt candidate result.candidate result.decision.val.acceptedAtUtc := by
  simp only [applyReviewAction] at run
  obtain ⟨_, _, run⟩ := Except.seq_returns.mp run
  obtain ⟨digest, _, run⟩ := Except.seq_returns.mp run
  obtain ⟨_, _, run⟩ := Except.seq_returns.mp run
  obtain ⟨updated, moved, run⟩ := Except.seq_returns.mp run
  obtain ⟨decision, made, run⟩ := Except.seq_returns.mp run
  obtain ⟨grant, _, run⟩ := Except.seq_returns.mp run
  obtain ⟨auditEvent, _, run⟩ := Except.seq_returns.mp run
  cases run
  rw [Checked.make_eq_ok.mp made]
  exact candidateAfterReview_timed moved

theorem requestConversionIntent_timed {candidate : IdeaCandidate}
    {command : ConversionIntentCommand} {acceptedAtUtc : DateTime} {grant : ReviewAuthorityGrant}
    {result : ConversionIntentResult}
    (run : requestConversionIntent candidate command acceptedAtUtc grant = .ok result) :
    TimedAt candidate result.candidate result.conversionIntent.val.acceptedAtUtc := by
  simp only [requestConversionIntent] at run
  obtain ⟨_, _, run⟩ := Except.seq_returns.mp run
  obtain ⟨_, _, run⟩ := Except.seq_returns.mp run
  obtain ⟨intent, _, run⟩ := Except.seq_returns.mp run
  obtain ⟨governed, made, run⟩ := Except.seq_returns.mp run
  obtain ⟨moved, transition, run⟩ := Except.seq_returns.mp run
  obtain ⟨audit, _, run⟩ := Except.seq_returns.mp run
  cases run
  rw [Checked.make_eq_ok.mp made]
  exact transitionCandidate_timed transition

namespace IdeaRepository

/-- The candidate that is stored under the id was updated no later than the time. -/
def UpdatedBy (s : IdeaRepository) (candidateId : String) (time : DateTime) : Prop :=
  ∀ record, s.candidateRecords.get? candidateId = some record →
    record.val.candidate.val.updatedAtUtc ≤ time

/-- A transition, a review or a conversion does not carry a time before the update of
the candidate that is stored. -/
def KeepsTime (s : IdeaRepository) : RepositoryCall → Prop
  | .transition q => s.UpdatedBy q.candidateId q.occurredAtUtc
  | .mutate (.recordLifecycleTransition q) => s.UpdatedBy q.candidateId q.occurredAtUtc
  | .mutate (.recordReviewAction q) =>
      s.UpdatedBy q.result.decision.val.candidateId q.result.decision.val.acceptedAtUtc
  | .mutate (.recordConversionIntent q) =>
      s.UpdatedBy q.result.conversionIntent.val.intent.val.candidateId
        q.result.conversionIntent.val.acceptedAtUtc
  | _ => True

/-- Every candidate of the first state is still stored in the second, created at the
same time and updated no earlier. -/
def TimesForward : IdeaRepository → IdeaRepository → Prop :=
  Carries fun old new => LotusIdea.TimesForward old.val.candidate new.val.candidate

end IdeaRepository

/-! ## What an accepted call makes of the times -/

theorem updatedBy_iff {s : IdeaRepository} {candidateId : String} {time : DateTime}
    {record : CandidatePersistenceRecord}
    (stored : s.candidateRecords.get? candidateId = some record) :
    s.UpdatedBy candidateId time ↔ record.val.candidate.val.updatedAtUtc ≤ time := by
  constructor
  · intro updated
    exact updated record stored
  · intro earlier other found
    rw [stored] at found
    cases found
    exact earlier

/-- A stored candidate moves forward under an accepted mutation exactly when the call
does not carry a time before its update. -/
theorem write_times {s : IdeaRepository} {c : MutationCall} (governed : c.Governed)
    {m : AcceptedMutation} (planned : c.plan s = .ok (.accept m)) :
    (∀ old, s.candidateRecords.get? m.candidateId = some old →
      TimesForward old.val.candidate m.record.val.candidate) ↔ s.KeepsTime (.mutate c) := by
  obtain ⟨writes, _⟩ := mutation_writes planned
  cases writes with
  | created q entry auditEvent named absent _ record _ =>
      refine iff_of_true ?_ trivial
      intro old found
      rw [absent] at found
      cases found
  | reconciled q existing candidate entry auditEvent stored _ _ record _ =>
      obtain ⟨own, reconciles⟩ := persist_reconciles planned
      refine iff_of_true ?_ trivial
      intro old found
      rw [own] at found
      obtain ⟨reconciliation, reconciled, held⟩ := reconciles old found
      exact reconcileCandidate_forward reconciled held
  | transitioned q existing attributes stored _ moved _ =>
      obtain ⟨candidate, entry, transition, record⟩ := (transitionRecord_moved moved).record
      rw [Dict.forall_bound_iff stored, record]
      rw [lifecycle_target planned] at stored
      rw [IdeaRepository.KeepsTime, updatedBy_iff stored]
      exact (transitionCandidate_timed transition).forward_iff (IdeaCandidate.equals_self _)
  | reviewed q existing history named stored _ source record _ =>
      obtain ⟨candidate, command, acceptedAtUtc, receipt, policy, run⟩ := governed
      rw [(applyReviewAction_recorded run).sourceCandidate] at source
      rw [Dict.forall_bound_iff stored, record]
      rw [named] at stored
      rw [IdeaRepository.KeepsTime, updatedBy_iff stored]
      exact (applyReviewAction_timed run).forward_iff source
  | feedback q existing _ stored _ record _ | outcome q existing _ stored _ _ record _
  | packed q existing _ stored record _ =>
      rw [Dict.forall_bound_iff stored, record]
      exact iff_of_true (timesForward_self _) trivial
  | converted q existing history grant named stored source _ _ record _ =>
      obtain ⟨candidate, command, acceptedAtUtc, carried, run⟩ := governed
      rw [(requestConversionIntent_returns run).1] at source
      rw [Dict.forall_bound_iff stored, record]
      rw [named] at stored
      rw [IdeaRepository.KeepsTime, updatedBy_iff stored]
      exact (requestConversionIntent_timed run).forward_iff source

namespace IdeaRepository

theorem keepsTime_decides :
    Decides (fun old new => LotusIdea.TimesForward old.val.candidate new.val.candidate)
      KeepsTime where
  refl r := timesForward_self _
  writes s call m governed planned := write_times governed planned
  moves s q record updated auditEvent stored moved := by
    obtain ⟨candidate, entry, transition, fields⟩ := (transitionRecord_moved moved).record
    rw [fields, KeepsTime, updatedBy_iff stored]
    exact (transitionCandidate_timed transition).forward_iff (IdeaCandidate.equals_self _)
  explains s c q lineage record updated isCall accepted := by
    have free : s.KeepsTime c := by
      rcases isCall with rfl | ⟨key, payload, rfl⟩ <;> trivial
    rw [accepted.fields]
    exact iff_of_true (timesForward_self _) free

/-! ## Over a run -/

def sampleTransition (targetStatus : IdeaLifecycleStatus) (time : Int) : RepositoryCall :=
  .transition
    { candidateId := "idea-1", targetStatus := targetStatus, actorSubject := "advisor-1"
      occurredAtUtc := .utc time }

/-- A candidate is persisted and reviewed at 20. -/
def sampleReviewedAt20 : List RepositoryCall :=
  [samplePersist "persist-1" false 10, sampleTransition .reviewedByAdvisor 20]

theorem sampleReviewedAt20_governed : ∀ c ∈ sampleReviewedAt20, c.Governed := by
  intro c member
  simp only [sampleReviewedAt20, List.mem_cons, List.not_mem_nil, or_false] at member
  rcases member with rfl | rfl <;> trivial

end IdeaRepository

end

section Sample

open IdeaRepository (sampleReviewedAt20 sampleReviewedAt20_governed)

local instance timesSha256 : Sha256 := Sha256.zeros

/-- Whether the candidate with the id is stored, with the update time. -/
def storedAt (s : IdeaRepository) (candidateId : String) (time : Int) : Bool :=
  (s.candidateRecords.get? candidateId).any fun record =>
    record.val.candidate.val.updatedAtUtc.instant == time

set_option maxRecDepth 10000 in
theorem sampleLateClose_stored :
    let s := IdeaRepository.empty.run sampleReviewedAt20
    storedAt s "idea-1" 20 = true ∧
      storedAt (s.step (IdeaRepository.sampleTransition .closed 10)) "idea-1" 10 = true := by
  decide +kernel

set_option maxRecDepth 10000 in
theorem samplePersisted_at : ((IdeaRepository.empty.step
      (samplePersist "persist-1" false 10)).candidateRecords.get? "idea-1").any
    (fun record => record.val.candidate.val.updatedAtUtc.instant == 0) = true := by
  decide +kernel

end Sample

end LotusIdea

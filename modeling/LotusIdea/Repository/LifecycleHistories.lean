import LotusIdea.Foundation.Trails
import LotusIdea.Repository.CarriedRecords

/-!
# The lifecycle history over runs

Transitions, reviews and conversions log every change of the lifecycle status.  A
reconciliation changes the status without an entry; `KeepsStatus` is the condition on
a call, in the state in which it is made, under which it does not.
-/

set_option autoImplicit false

namespace LotusIdea

open IdeaRepository (PersistRequest LifecycleRequest TransitionRequest ResultRequest LineageRequest)

/-- The entries lead from one lifecycle status to another. -/
def StatusTrail : IdeaLifecycleStatus → List LifecycleHistoryEntry → IdeaLifecycleStatus → Prop :=
  Trail (fun entry => entry.val.sourceStatus) fun entry => entry.val.targetStatus

theorem statusTrail_single {entry : LifecycleHistoryEntry} {start finish : IdeaLifecycleStatus}
    (source : entry.val.sourceStatus = start) (target : entry.val.targetStatus = finish) :
    StatusTrail start [entry] finish :=
  ⟨source, target.symm⟩

theorem StatusTrail.last {start finish : IdeaLifecycleStatus}
    {entries : List LifecycleHistoryEntry} {entry : LifecycleHistoryEntry}
    (trail : StatusTrail start entries finish) (ends : entries.getLast? = some entry) :
    entry.val.targetStatus = finish := by
  unfold StatusTrail at trail
  have reached := trail.last ends
  exact reached

/-- The record's history is continued by entries that lead from its status to the
status of the other one. -/
def HistoryContinues (old new : CandidatePersistenceRecord) : Prop :=
  ∃ entries, new.val.lifecycleHistory = old.val.lifecycleHistory ++ entries ∧
    StatusTrail old.val.candidate.val.lifecycleStatus entries
      new.val.candidate.val.lifecycleStatus

theorem historyContinues_refl (r : CandidatePersistenceRecord) : HistoryContinues r r :=
  ⟨[], by simp, rfl⟩

theorem historyContinues_trans {a b c : CandidatePersistenceRecord} (first : HistoryContinues a b)
    (second : HistoryContinues b c) : HistoryContinues a c := by
  obtain ⟨entries, history, before⟩ := first
  obtain ⟨further, extended, after⟩ := second
  exact ⟨entries ++ further, by rw [extended, history, List.append_assoc], before.append after⟩

/-- Without a new entry the history is continued when the status stays. -/
theorem historyContinues_iff {old new : CandidatePersistenceRecord}
    (same : new.val.lifecycleHistory = old.val.lifecycleHistory) :
    HistoryContinues old new ↔
      new.val.candidate.val.lifecycleStatus = old.val.candidate.val.lifecycleStatus := by
  constructor
  · intro continued
    obtain ⟨entries, history, trail⟩ := continued
    rw [same] at history
    have none_ : entries = [] := List.self_eq_append_right.mp history
    subst none_
    exact trail
  · intro status
    exact ⟨[], by rw [same, List.append_nil], status⟩

/-! ## The entries of one operation -/

theorem historyAfter_continues {record : CandidatePersistenceRecord} {candidateId : String}
    {candidate : IdeaCandidate} {actorSubject : String} {changedAtUtc : DateTime}
    {history : List LifecycleHistoryEntry}
    (run : historyAfter record candidateId candidate actorSubject changedAtUtc =
      .ok history) :
    ∃ entries, history = record.val.lifecycleHistory ++ entries ∧
      StatusTrail record.val.candidate.val.lifecycleStatus entries
        candidate.val.lifecycleStatus := by
  unfold historyAfter at run
  split at run
  · rename_i same
    cases run
    exact ⟨[], by simp, same.symm⟩
  · obtain ⟨entry, made, run⟩ := Except.seq_returns.mp run
    cases run
    have fields := Checked.make_eq_ok.mp made
    exact ⟨[entry], rfl, statusTrail_single (by rw [fields]) (by rw [fields])⟩

theorem transitionRecord_continues {old updated : CandidatePersistenceRecord}
    {targetStatus : IdeaLifecycleStatus} {actorSubject : String} {occurredAtUtc : DateTime}
    {attributes : List (String × String)} {auditEvent : AuditEvent}
    (run : IdeaRepository.transitionRecord old targetStatus actorSubject occurredAtUtc attributes =
      .ok (updated, auditEvent)) : HistoryContinues old updated := by
  simp only [IdeaRepository.transitionRecord] at run
  obtain ⟨candidate, moved, run⟩ := Except.seq_returns.mp run
  obtain ⟨entry, logged, run⟩ := Except.seq_returns.mp run
  obtain ⟨event, _, run⟩ := Except.seq_returns.mp run
  obtain ⟨made, created, run⟩ := Except.seq_returns.mp run
  cases run
  obtain ⟨_, posture, transitioned⟩ := transitionCandidate_returns moved
  have fields := Checked.make_eq_ok.mp logged
  refine ⟨[entry], by rw [Checked.make_eq_ok.mp created], ?_⟩
  rw [Checked.make_eq_ok.mp created, transitioned]
  exact statusTrail_single (by rw [fields]) (by rw [fields])

/-- A material version brings its status along; a refresh sends an approved candidate
back to review. -/
theorem reconciled_status {existing incoming next : IdeaCandidate} {occurredAtUtc : DateTime}
    (reconciled : ReconciledAs existing incoming occurredAtUtc next) :
    next.val.lifecycleStatus =
      if startsMaterialVersion existing incoming then incoming.val.lifecycleStatus
      else (evidenceRefreshReviewState existing).1 := by
  cases reconciled with
  | refreshed identity stays made =>
      rw [stays, Checked.make_eq_ok.mp made]
      rfl
  | renewed reason starts made =>
      simp only [newMaterialVersion] at made
      obtain ⟨identity, _, made⟩ := Except.seq_returns.mp made
      rw [starts, Checked.make_eq_ok.mp made]
      rfl

section
variable [Sha256]

section
variable {s : IdeaRepository} {m : AcceptedMutation}

theorem review_continues {q : ResultRequest ReviewActionResult}
    (planned : s.reviewPlan q = .ok (.accept m)) {old : CandidatePersistenceRecord}
    (found : s.candidateRecords.get? m.candidateId = some old) : HistoryContinues old m.record := by
  simp only [IdeaRepository.reviewPlan] at planned
  obtain ⟨_, passed, planned⟩ := Except.seq_returns.mp planned
  have checks := validate_eq_ok.mp passed
  simp only [firstFailure_cons, requireText_passes] at checks
  obtain ⟨record, scope, stored, tenant, fresh, planned⟩ := forRecord_accepts checks.1 planned
  split at planned
  · rename_i seen
    cases planned
    exact (identityPlan_not_accept seen).elim
  simp only [IdeaRepository.reviewedPlan] at planned
  obtain ⟨_, source, planned⟩ := Except.seq_returns.mp planned
  obtain ⟨history, logged, planned⟩ := Except.seq_returns.mp planned
  obtain ⟨updated, made, planned⟩ := Except.seq_returns.mp planned
  cases planned
  rw [stored] at found
  cases found
  rw [HistoryContinues, Checked.make_eq_ok.mp made]
  exact historyAfter_continues logged

theorem conversion_continues {q : ResultRequest ConversionIntentResult}
    (planned : s.conversionPlan q = .ok (.accept m)) {old : CandidatePersistenceRecord}
    (found : s.candidateRecords.get? m.candidateId = some old) : HistoryContinues old m.record := by
  simp only [IdeaRepository.conversionPlan] at planned
  obtain ⟨_, passed, planned⟩ := Except.seq_returns.mp planned
  have checks := validate_eq_ok.mp passed
  simp only [firstFailure_cons, requireText_passes] at checks
  obtain ⟨record, scope, stored, tenant, fresh, planned⟩ := forRecord_accepts checks.1 planned
  simp only [IdeaRepository.convertedPlan] at planned
  obtain ⟨_, source, planned⟩ := Except.seq_returns.mp planned
  split at planned
  · cases planned
  obtain ⟨held, _, planned⟩ := Except.seq_returns.mp planned
  obtain ⟨_, _, planned⟩ := Except.seq_returns.mp planned
  obtain ⟨history, logged, planned⟩ := Except.seq_returns.mp planned
  obtain ⟨updated, made, planned⟩ := Except.seq_returns.mp planned
  cases planned
  rw [stored] at found
  cases found
  rw [HistoryContinues, Checked.make_eq_ok.mp made]
  exact historyAfter_continues logged

end

namespace IdeaRepository

/-- A detection that is reconciled with a stored candidate brings no other status as a
material version, and meets no approved candidate otherwise. -/
def KeepsStatus (s : IdeaRepository) : RepositoryCall → Prop
  | .mutate (.persistCandidate q) =>
      ∀ existing, s.candidateRecords.get? q.candidate.val.candidateId = some existing →
        if startsMaterialVersion existing.val.candidate q.candidate then
          q.candidate.val.lifecycleStatus = existing.val.candidate.val.lifecycleStatus
        else existing.val.candidate.val.lifecycleStatus ≠ .approved
  | _ => True

/-- A call of the run persisted the candidate when it was not stored, and the history
leads from the status that it had then to the status that it has. -/
def StatusExplained (calls : List RepositoryCall) (id : String)
    (record : CandidatePersistenceRecord) : Prop :=
  ∃ earlier q rest, calls = earlier ++ .mutate (.persistCandidate q) :: rest ∧
    (empty.run earlier).candidateRecords.get? id = none ∧
    q.candidate.val.candidateId = id ∧
    StatusTrail q.candidate.val.lifecycleStatus record.val.lifecycleHistory
      record.val.candidate.val.lifecycleStatus

/-! ## What an accepted call logs -/

omit [Sha256] in
theorem keepsStatus_iff {existing incoming next : IdeaCandidate} {occurredAtUtc : DateTime}
    (reconciled : ReconciledAs existing incoming occurredAtUtc next) :
    next.val.lifecycleStatus = existing.val.lifecycleStatus ↔
      if startsMaterialVersion existing incoming then
        incoming.val.lifecycleStatus = existing.val.lifecycleStatus
      else existing.val.lifecycleStatus ≠ .approved := by
  rw [reconciled_status reconciled]
  by_cases starts : startsMaterialVersion existing incoming = true
  · rw [if_pos starts, if_pos starts]
  · rw [if_neg starts, if_neg starts, evidenceRefreshReviewState]
    by_cases approved : existing.val.lifecycleStatus = .approved
    · simp [approved]
    · simp [approved]

theorem write_continues {s : IdeaRepository} {c : MutationCall} {m : AcceptedMutation}
    (planned : c.plan s = .ok (.accept m)) :
    (∀ old, s.candidateRecords.get? m.candidateId = some old → HistoryContinues old m.record) ↔
      s.KeepsStatus (.mutate c) := by
  obtain ⟨writes, _⟩ := mutation_writes planned
  cases writes with
  | created q entry auditEvent named absent _ record _ =>
      rw [named] at absent
      simp [KeepsStatus, named, absent]
  | reconciled q existing candidate entry auditEvent stored _ _ record _ =>
      obtain ⟨own, reconciles⟩ := persist_reconciles planned
      rw [Dict.forall_bound_iff stored]
      rw [own] at stored
      obtain ⟨reconciliation, reconciled, held⟩ := reconciles existing stored
      have history : m.record.val.lifecycleHistory = existing.val.lifecycleHistory := by
        rw [record]
      rw [historyContinues_iff history, KeepsStatus, Dict.forall_bound_iff stored]
      exact keepsStatus_iff (reconcileCandidate_reconciled reconciled held)
  | transitioned q existing attributes stored _ moved _ =>
      rw [Dict.forall_bound_iff stored]
      exact iff_of_true (transitionRecord_continues moved) trivial
  | reviewed q _ _ _ _ _ _ _ _ =>
      exact iff_of_true (fun old found => review_continues planned found) trivial
  | converted q _ _ _ _ _ _ _ _ _ _ =>
      exact iff_of_true (fun old found => conversion_continues planned found) trivial
  | feedback q existing _ stored _ record _ | outcome q existing _ stored _ _ record _
  | packed q existing _ stored record _ =>
      rw [Dict.forall_bound_iff stored]
      refine iff_of_true ?_ trivial
      exact (historyContinues_iff (by rw [record])).mpr (by rw [record])

theorem keepsStatus_decides : Decides HistoryContinues KeepsStatus where
  refl := historyContinues_refl
  writes s call m governed planned := write_continues planned
  moves s q record updated auditEvent stored moved :=
    iff_of_true (transitionRecord_continues moved) trivial
  explains s c q lineage record updated isCall accepted := by
    have free : s.KeepsStatus c := by
      rcases isCall with rfl | ⟨key, payload, rfl⟩ <;> trivial
    refine iff_of_true ?_ free
    exact (historyContinues_iff (by rw [accepted.fields])).mpr (by rw [accepted.fields])

/-- A record that a call stored for the first time is the one that the call persisted. -/
theorem stored_first {s : IdeaRepository} (keyed : s.Keyed) {c : RepositoryCall} {id : String}
    (absent : s.candidateRecords.get? id = none) {record : CandidatePersistenceRecord}
    (stored : (s.step c).candidateRecords.get? id = some record) :
    ∃ q, c = .mutate (.persistCandidate q) ∧ q.candidate.val.candidateId = id ∧
      record.val.candidate = q.candidate ∧ record.val.lifecycleHistory = [] := by
  have elsewhere {other : String} {old updated : CandidatePersistenceRecord}
      (held : s.candidateRecords.get? other = some old)
      (found : (s.candidateRecords.set other updated).get? id = some record) : False := by
    by_cases here : id = other
    · rw [here, held] at absent
      cases absent
    · rw [Dict.get?_set_of_ne _ here, absent] at found
      cases found
  have after := records_after_step keyed c
  generalize (s.step c).candidateRecords = records at after stored
  cases after with
  | same =>
      rw [absent] at stored
      cases stored
  | written call isCall m planned =>
      obtain ⟨writes, _⟩ := mutation_writes planned
      cases writes with
      | created q entry auditEvent named free _ fields _ =>
          have here : id = m.candidateId := by
            by_contra other
            rw [Dict.get?_set_of_ne _ other, absent] at stored
            cases stored
          subst here
          rw [Dict.get?_set_self] at stored
          cases stored
          exact ⟨q, isCall, named.symm, by rw [fields], by rw [fields]⟩
      | reconciled _ _ _ _ _ held | transitioned _ _ _ held | reviewed _ _ _ _ held
      | feedback _ _ _ held | converted _ _ _ _ _ held | outcome _ _ _ held
      | packed _ _ _ held => exact (elsewhere held stored).elim
  | moved q isCall old updated auditEvent held moved => exact (elsewhere held stored).elim
  | explained q isCall lineage old updated accepted =>
      exact (elsewhere accepted.stored stored).elim

/-! ## Over a run -/

end IdeaRepository

end

/-! ## A reconciliation without an entry -/

section Sample

local instance historiesSha256 : Sha256 := Sha256.zeros

/-- The candidate with the id is stored, and the last entry of its history ends in
another status than its own. -/
def endsElsewhere (s : IdeaRepository) (candidateId : String) : Bool :=
  (s.candidateRecords.get? candidateId).any fun record =>
    record.val.lifecycleHistory.getLast?.any fun entry =>
      entry.val.targetStatus != record.val.candidate.val.lifecycleStatus

set_option maxRecDepth 10000 in
theorem sampleChanged_endsElsewhere :
    endsElsewhere (IdeaRepository.empty.run sampleChanged) "idea-1" = true := by
  decide +kernel

theorem sampleChanged_governed : ∀ c ∈ sampleChanged, c.Governed := by
  refine List.forall_mem_append.mpr ⟨sampleApproved_governed, ?_⟩
  intro c member
  rw [List.mem_singleton] at member
  subst member
  trivial

set_option maxRecDepth 10000 in
theorem sampleApproved_stores :
    ((IdeaRepository.empty.run sampleApproved).candidateRecords.get? "idea-1").isSome = true := by
  decide +kernel

end Sample

end LotusIdea

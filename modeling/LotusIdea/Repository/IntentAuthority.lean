import LotusIdea.Repository.RevokedAuthority

/-!
# One conversion intent per approval

An intent is stored with the grant of a stored approval of the evidence that the
candidate then stands on.  Storing it closes the candidate at that version, and
only a later version opens it again, so a version is spent at most once.
-/

set_option autoImplicit false

namespace LotusIdea

/-! ## Closed statuses -/

/-- Converted, or past conversion. -/
def isClosedToConversion : IdeaLifecycleStatus → Bool
  | .convertedToProposal | .convertedToManageReview | .convertedToReport => true
  | .accepted | .rejected | .expired | .executed | .closed => true
  | _ => false

theorem transition_keeps_closed {source target : IdeaLifecycleStatus}
    (allowed : target ∈ allowedLifecycleTransitions source)
    (closed : isClosedToConversion source = true) : isClosedToConversion target = true := by
  have all : (allowedLifecycleTransitions source).all isClosedToConversion = true := by
    cases source <;> first | rfl | exact absurd closed (by decide)
  exact List.all_eq_true.mp all target allowed

theorem reviewable_is_open {action : ReviewAction} {status : IdeaLifecycleStatus}
    (reviewable : status ∈ reviewActionLifecycleStatuses action) :
    isClosedToConversion status = false := by
  cases action <;> cases status <;> first | rfl | (revert reviewable; decide)

theorem converted_is_closed (target : ConversionTarget) :
    isClosedToConversion (targetLifecycleStatus target) = true := by
  cases target <;> rfl

section
variable [Sha256]

/-! ## Intents and the versions they spend -/

/-- The decision's grant is the one that the intent carries. -/
def Authorises (decision : GovernedReviewDecision) (intent : GovernedConversionIntent) : Prop :=
  ∃ grant, intent.val.reviewAuthorityGrant = some grant ∧
    decision.authorityGrant = .ok (some grant)

/-- The version of the evidence that the intent's grant names. -/
def spentVersion (intent : GovernedConversionIntent) : Option IdeaVersion :=
  intent.val.reviewAuthorityGrant.map fun grant => grant.val.candidateEvidence.version

structure IntentsRecorded (id : String) (r : CandidatePersistenceRecord) : Prop where
  authorised : ∀ intent ∈ r.val.conversionIntents,
    ∃ decision ∈ r.val.reviewDecisions, Authorises decision intent
  spent : VersionLedger.SpentOnce (r.val.conversionIntents.filterMap spentVersion)
    r.val.candidate.version (isClosedToConversion r.val.candidate.val.lifecycleStatus = true)

omit [Sha256] in
theorem created_intents {c : RepositoryCall} {id : String} {new : CandidatePersistenceRecord}
    (step : RecordStep c id none new) : IntentsRecorded id new := by
  cases step with
  | created q _ _ entry _ _ _ _ intents =>
      constructor
      · rw [intents]
        simp
      · rw [intents]
        exact VersionLedger.SpentOnce.nil _ _

/-- A conversion spends the current version of an approved candidate. -/
theorem converted_intents {q : IdeaRepository.ResultRequest ConversionIntentResult} {id : String}
    {old new : CandidatePersistenceRecord}
    (governed : MutationCall.Governed (.recordConversionIntent q))
    (source : old.val.candidate.equals q.result.sourceCandidate = true)
    (candidate : new.val.candidate = q.result.candidate) {grant : ReviewAuthorityGrant}
    (carried : q.result.conversionIntent.val.reviewAuthorityGrant = some grant)
    (held : ∃ decision ∈ old.val.reviewDecisions, decision.authorityGrant = .ok (some grant))
    (decisions : new.val.reviewDecisions = old.val.reviewDecisions)
    (intents : new.val.conversionIntents =
      old.val.conversionIntents ++ [q.result.conversionIntent])
    (recorded : IntentsRecorded id old) : IntentsRecorded id new := by
  obtain ⟨origin, command, acceptedAtUtc, own, run⟩ := governed
  obtain ⟨isOrigin, same, approved, target, carries, _, _, evidence, _⟩ :=
    requestConversionIntent_returns run
  rw [isOrigin] at source
  rw [carries] at carried
  cases carried
  have standing := standing_of_equals source same
  rw [← candidate] at standing target
  -- the grant names the version that the candidate has before and after
  have names : grant.val.candidateEvidence.version = old.val.candidate.version := by
    rw [evidence, ← CandidateEvidenceIdentity.fromCandidate_of_equals source]
    rfl
  have open_ : ¬ isClosedToConversion old.val.candidate.val.lifecycleStatus = true := by
    rw [IdeaCandidate.lifecycleStatus_of_equals source, approved]
    decide
  have closed : isClosedToConversion new.val.candidate.val.lifecycleStatus = true := by
    rw [target]
    exact converted_is_closed _
  constructor
  · intro intent member
    rw [intents, List.mem_append, List.mem_singleton] at member
    rw [decisions]
    rcases member with earlier | rfl
    · exact recorded.authorised intent earlier
    · obtain ⟨decision, isHeld, grants⟩ := held
      exact ⟨decision, isHeld, grant, carries, grants⟩
  · have spends := recorded.spent.spend open_ closed
    rw [intents, List.filterMap_append, standing.version]
    simp only [List.filterMap_cons, List.filterMap_nil, spentVersion, carries, Option.map_some,
      names]
    exact spends

theorem step_intents {c : RepositoryCall} {id : String} {old new : CandidatePersistenceRecord}
    (governed : c.Governed) (step : RecordStep c id (some old) new)
    (recorded : IntentsRecorded id old) : IntentsRecorded id new := by
  cases step with
  | reconciled entry next _ _ decisions intents =>
      constructor
      · rw [decisions, intents]
        exact recorded.authorised
      · rw [intents]
        exact recorded.spent.advance next.later
  | transitioned targetStatus occurredAtUtc moved _ decisions intents =>
      obtain ⟨allowed, posture, fields⟩ := transitionCandidate_returns moved
      constructor
      · rw [decisions, intents]
        exact recorded.authorised
      · rw [intents, (transitionCandidate_sameEvidence moved).version]
        refine recorded.spent.stay fun closed => ?_
        rw [fields]
        exact transition_keeps_closed allowed closed
  | reviewed q isReview source candidate _ decisions intents =>
      subst isReview
      obtain ⟨origin, command, acceptedAtUtc, receipt, policy, run⟩ := governed
      obtain ⟨isOrigin, same, _, reviewable⟩ := applyReviewAction_returns run
      rw [isOrigin] at source
      have standing := standing_of_equals source same
      constructor
      · intro intent member
        rw [intents] at member
        obtain ⟨decision, held, authorises⟩ := recorded.authorised intent member
        rw [decisions]
        exact ⟨decision, List.mem_append_left _ held, authorises⟩
      · rw [intents, candidate, standing.version]
        -- a closed candidate is not open to review
        refine recorded.spent.stay fun closed => ?_
        rw [IdeaCandidate.lifecycleStatus_of_equals source, reviewable_is_open reviewable] at closed
        cases closed
  | converted q isConversion source candidate grant carried held _ decisions intents =>
      subst isConversion
      exact converted_intents governed source candidate carried held decisions intents recorded
  | annotated candidate _ decisions intents =>
      constructor
      · rw [decisions, intents]
        exact recorded.authorised
      · rw [intents, candidate]
        exact recorded.spent

theorem intentsRecorded {calls : List RepositoryCall} (governed : ∀ c ∈ calls, c.Governed)
    {id : String} {record : CandidatePersistenceRecord}
    (stored : (IdeaRepository.empty.run calls).candidateRecords.get? id = some record) :
    IntentsRecorded id record :=
  run_records IntentsRecorded (fun _ _ _ _ step => created_intents step)
    (fun _ _ _ _ good step before => step_intents good step before) governed id stored

/-! ## Where an intent came from -/

/-- The call that stored the intent found the candidate on the very evidence that
the grant names. -/
def AcceptedOn (calls : List RepositoryCall) (id : String) (intent : GovernedConversionIntent)
    (grant : ReviewAuthorityGrant) : Prop :=
  ∃ first q later before,
    calls = first ++ .mutate (.recordConversionIntent q) :: later ∧
    q.result.conversionIntent = intent ∧
    (IdeaRepository.empty.run first).candidateRecords.get? id = some before ∧
    intent ∉ before.val.conversionIntents ∧
    grant.val.candidateEvidence = CandidateEvidenceIdentity.fromCandidate before.val.candidate

def HoldsIntent (id : String) (intent : GovernedConversionIntent) (s : IdeaRepository) : Prop :=
  ∃ record, s.candidateRecords.get? id = some record ∧ intent ∈ record.val.conversionIntents

/-- Only a conversion adds an intent to a record. -/
theorem RecordStep.added {c : RepositoryCall} {id : String} {old new : CandidatePersistenceRecord}
    {intent : GovernedConversionIntent} {grant : ReviewAuthorityGrant} (governed : c.Governed)
    (step : RecordStep c id (some old) new) (absent : intent ∉ old.val.conversionIntents)
    (member : intent ∈ new.val.conversionIntents)
    (carries : intent.val.reviewAuthorityGrant = some grant) :
    ∃ q, c = .mutate (.recordConversionIntent q) ∧ q.result.conversionIntent = intent ∧
      grant.val.candidateEvidence =
        CandidateEvidenceIdentity.fromCandidate old.val.candidate := by
  cases step with
  | reconciled _ _ _ _ _ intents =>
      rw [intents] at member
      exact absurd member absent
  | transitioned _ _ _ _ _ intents =>
      rw [intents] at member
      exact absurd member absent
  | reviewed _ _ _ _ _ _ intents =>
      rw [intents] at member
      exact absurd member absent
  | converted q isConversion source _ _ _ _ _ _ intents =>
      subst isConversion
      obtain ⟨origin, command, acceptedAtUtc, own, run⟩ := governed
      obtain ⟨isOrigin, _, _, _, ownCarries, _, _, evidence, _⟩ :=
        requestConversionIntent_returns run
      rw [intents, List.mem_append, List.mem_singleton] at member
      rcases member with earlier | rfl
      · exact absurd earlier absent
      · rw [carries] at ownCarries
        cases ownCarries
        rw [isOrigin] at source
        refine ⟨q, rfl, rfl, ?_⟩
        rw [evidence, CandidateEvidenceIdentity.fromCandidate_of_equals source]
  | annotated _ _ _ intents =>
      rw [intents] at member
      exact absurd member absent

theorem acceptedOn {calls : List RepositoryCall} (governed : ∀ c ∈ calls, c.Governed) {id : String}
    {record : CandidatePersistenceRecord}
    (stored : (IdeaRepository.empty.run calls).candidateRecords.get? id = some record)
    {intent : GovernedConversionIntent} (member : intent ∈ record.val.conversionIntents)
    {grant : ReviewAuthorityGrant} (carries : intent.val.reviewAuthorityGrant = some grant) :
    AcceptedOn calls id intent grant := by
  have absent : ¬ HoldsIntent id intent IdeaRepository.empty := by
    rintro ⟨none_, found, _⟩
    simp [IdeaRepository.empty] at found
  have holds : HoldsIntent id intent (IdeaRepository.empty.run calls) := ⟨record, stored, member⟩
  obtain ⟨first, call, later, whole, before, after, found, added⟩ :=
    Runs.first_cause IdeaRepository.step (HoldsIntent id intent) absent holds
  subst whole
  have governedFirst : ∀ c ∈ first, c.Governed := fun c isFirst =>
    governed c (List.mem_append_left _ isFirst)
  have governedCall : call.Governed :=
    governed call (List.mem_append_right _ List.mem_cons_self)
  have keyed := keyed_after_run keyed_empty governedFirst
  rcases step_record keyed call id with same | ⟨new, now, step⟩
  · -- an untouched record held the intent before
    rw [IdeaRepository.run] at same
    rw [same] at found
    exact absurd ⟨after, found, added⟩ before
  · rw [IdeaRepository.run] at now
    rw [now] at found
    cases found
    cases there : (IdeaRepository.empty.run first).candidateRecords.get? id with
    | none =>
        rw [there] at step
        cases step with
        | created _ _ _ _ _ _ _ _ intents =>
            rw [intents] at added
            cases added
    | some old =>
        rw [there] at step
        have fresh : intent ∉ old.val.conversionIntents := fun held => before ⟨old, there, held⟩
        obtain ⟨q, rfl, same, evidence⟩ := step.added governedCall fresh added carries
        exact ⟨first, q, later, old, rfl, same, there, fresh, evidence⟩

/-! ## At most one intent for an approval -/

/-- Neither the approving decision nor the version of the evidence is shared. -/
def ApartIntents (record : CandidatePersistenceRecord) (a b : GovernedConversionIntent) : Prop :=
  (∀ decision ∈ record.val.reviewDecisions, Authorises decision a → ¬ Authorises decision b) ∧
    spentVersion a ≠ spentVersion b

omit [Sha256] in
theorem apartIntents {id : String} {record : CandidatePersistenceRecord}
    (recorded : IntentsRecorded id record) :
    record.val.conversionIntents.Pairwise (ApartIntents record) := by
  have carried : ∀ intent ∈ record.val.conversionIntents,
      ∃ version, spentVersion intent = some version := by
    intro intent member
    obtain ⟨_, _, grant, carries, _⟩ := recorded.authorised intent member
    exact ⟨grant.val.candidateEvidence.version, by simp [spentVersion, carries]⟩
  have distinct := List.pairwise_filterMap.mp recorded.spent.distinct
  refine distinct.imp_of_mem ?_
  intro a b memberA memberB apart
  obtain ⟨versionA, spendsA⟩ := carried a memberA
  obtain ⟨versionB, spendsB⟩ := carried b memberB
  have versions : spentVersion a ≠ spentVersion b := by
    rw [spendsA, spendsB]
    intro same
    exact apart versionA spendsA versionB spendsB (Option.some.inj same)
  refine ⟨?_, versions⟩
  rintro decision _ ⟨grantA, carriesA, grantsA⟩ ⟨grantB, carriesB, grantsB⟩
  rw [grantsA] at grantsB
  cases grantsB
  exact versions (by rw [spentVersion, spentVersion, carriesA, carriesB])

/-- At most one downstream intent for an approval: every stored intent carries
the grant of a stored approval of the same candidate, on the evidence that the
candidate had when the intent was accepted, and no two intents of a candidate
share an approving decision or a version. -/
theorem one_intent_per_approval (calls : List RepositoryCall)
    (governed : ∀ c ∈ calls, c.Governed) (id : String) (record : CandidatePersistenceRecord)
    (stored : (IdeaRepository.empty.run calls).candidateRecords.get? id = some record) :
    (∀ intent ∈ record.val.conversionIntents, ∃ grant,
      intent.val.reviewAuthorityGrant = some grant ∧
      (∃ decision ∈ record.val.reviewDecisions, decision.val.action = .approveForConversion ∧
        decision.val.candidateId = id ∧ decision.authorityGrant = .ok (some grant)) ∧
      AcceptedOn calls id intent grant) ∧
    record.val.conversionIntents.Pairwise (ApartIntents record) := by
  have intents := intentsRecorded governed stored
  have standing := recorded governed stored
  refine ⟨?_, apartIntents intents⟩
  intro intent member
  obtain ⟨decision, held, grant, carries, grants⟩ := intents.authorised intent member
  obtain ⟨approves, _, _, _⟩ := GovernedReviewDecision.authorityGrant_returns grants
  obtain ⟨own, _⟩ := standing.decidedOn decision held
  exact ⟨grant, carries, ⟨decision, held, approves, own, grants⟩,
    acceptedOn governed stored member carries⟩

/-! ## The approval of the sample is converted -/

def sampleConversion : Except PyError ConversionIntentResult := do
  let reviewed ← sampleReview
  match reviewed.authorityGrant with
  | none => throw (.valueError "the review granted no authority")
  | some grant =>
      let command ← Checked.make ConversionIntentCommandFields.checks
        { conversionIntentId := "intent-1", target := .reportEvidence, actorSubject := "advisor-1"
          idempotencyKey := "convert-1", reasonCodes := [.highCashRatio], requestedAtUtc := .utc 30
          expectedReviewId := "review-1", expectedCandidateEvidence := grant.val.candidateEvidence }
      requestConversionIntent reviewed.candidate command (.utc 30) grant

def sampleConverted : List RepositoryCall :=
  sampleApproved ++ recording "convert-1" .recordConversionIntent sampleConversion

theorem sampleConverted_governed : ∀ c ∈ sampleConverted, c.Governed := by
  refine List.forall_mem_append.mpr ⟨sampleApproved_governed, recording_governed ?_⟩
  intro q run
  simp only [sampleConversion] at run
  obtain ⟨reviewed, _, run⟩ := Except.seq_returns.mp run
  split at run
  · cases run
  · obtain ⟨command, _, run⟩ := Except.seq_returns.mp run
    exact ⟨_, _, _, _, run⟩

end

section Sample

local instance intentSha256 : Sha256 := Sha256.zeros

set_option maxRecDepth 10000 in
theorem sampleConverted_stored :
    ((IdeaRepository.empty.run sampleConverted).candidateRecords.get? "idea-1").any
      (fun record => record.val.conversionIntents.length = 1) = true := by
  decide +kernel

theorem one_intent_per_approval_sample : ∃ record,
    (IdeaRepository.empty.run sampleConverted).candidateRecords.get? "idea-1" = some record ∧
    record.val.conversionIntents.length = 1 ∧
    (∀ intent ∈ record.val.conversionIntents, ∃ grant,
      intent.val.reviewAuthorityGrant = some grant ∧
      (∃ decision ∈ record.val.reviewDecisions, decision.val.action = .approveForConversion ∧
        decision.val.candidateId = "idea-1" ∧ decision.authorityGrant = .ok (some grant)) ∧
      AcceptedOn sampleConverted "idea-1" intent grant) ∧
    record.val.conversionIntents.Pairwise (ApartIntents record) := by
  obtain ⟨record, stored, one⟩ := (Option.any_eq_true _ _).mp sampleConverted_stored
  obtain ⟨authorised, apart⟩ :=
    one_intent_per_approval sampleConverted sampleConverted_governed "idea-1" record stored
  exact ⟨record, stored, of_decide_eq_true one, authorised, apart⟩

end Sample

end LotusIdea

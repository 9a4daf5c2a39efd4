import LotusIdea.Domain.ConversionGovernance
import LotusIdea.Foundation.OrderedRows
import Mathlib.Data.List.Chain

/-!
# Outcome histories

`conversion_outcome_policy.py` judges an outcome by the outcomes before it, which it
sorts first.  A history is valid in its own terms when each outcome succeeds the one
before it, and the policy accepts the outcomes of a valid history in any order.
-/

set_option autoImplicit false

namespace LotusIdea

/-- What `validate_conversion_outcome_history` raises. -/
def conversionOutcomeHistoryViolation (outcomes : List ConversionOutcomeIdentity) :
    Option ConversionOutcomePolicyReason :=
  historyViolation [] (outcomes.insertionSort fun a b => a.precedes b)

/-- `current_conversion_outcome_identity`. -/
def currentConversionOutcomeIdentity (outcomes : List ConversionOutcomeIdentity) :
    Option ConversionOutcomeIdentity :=
  match conversionOutcomeHistoryViolation outcomes with
  | some _ => none
  | none => ConversionOutcomeIdentity.latest outcomes

/-- `current_conversion_outcome`. -/
def currentConversionOutcome (outcomes : List GovernedConversionOutcome) :
    Option GovernedConversionOutcome := do
  let current ← currentConversionOutcomeIdentity (outcomes.map GovernedConversionOutcome.identity)
  outcomes.find? fun outcome => (GovernedConversionOutcome.identity outcome).equals current

namespace ConversionOutcomeIdentity

/-! ## Valid histories -/

/-- A correction names the outcome that it corrects and says why. -/
structure Corrects (current proposed : ConversionOutcomeIdentity) : Prop where
  supersedes : proposed.supersedesConversionOutcomeId = some current.conversionOutcomeId
  reasoned : ∃ reason, proposed.correctionReason = some reason ∧ PyText.isBlank reason = false
  status : proposed.status ≠ .requested

/-- An outcome that corrects nothing makes an allowed transition. -/
structure Progresses (current proposed : ConversionOutcomeIdentity) : Prop where
  supersedes : proposed.supersedesConversionOutcomeId = none
  unreasoned : proposed.correctionReason = none
  status : proposed.status ∈ allowedNextStatuses current.status

structure Succeeds (current proposed : ConversionOutcomeIdentity) : Prop where
  intent : proposed.conversionIntentId = current.conversionIntentId
  target : proposed.target = current.target
  source : proposed.sourceSystem = current.sourceSystem
  version : proposed.sourceEventVersion = current.sourceEventVersion + 1
  recorded : current.recordedAtUtc < proposed.recordedAtUtc
  moved : Corrects current proposed ∨ Progresses current proposed

structure Initial (first : ConversionOutcomeIdentity) : Prop where
  version : first.sourceEventVersion = 1
  supersedes : first.supersedesConversionOutcomeId = none
  unreasoned : first.correctionReason = none
  status : first.status ∈ initialStatuses

/-- The outcomes succeed one another from an initial one, under distinct identities. -/
structure History (outcomes : List ConversionOutcomeIdentity) : Prop where
  started : ∀ first, outcomes.head? = some first → Initial first
  chained : outcomes.IsChain Succeeds
  distinct : (outcomes.map conversionOutcomeId).Nodup

theorem initial_iff {first : ConversionOutcomeIdentity} :
    initialOutcomeViolation first = none ↔ Initial first := by
  simp only [initialOutcomeViolation]
  split_ifs with version corrected status
  · exact iff_of_false (by simp) fun initial => version initial.version
  · refine iff_of_false (by simp) fun initial => ?_
    simp [initial.supersedes, initial.unreasoned] at corrected
  · refine iff_of_false (by simp) fun initial => ?_
    simp [initial.status] at status
  · simp only [Bool.or_eq_true, not_or, Bool.not_eq_true, Option.isSome_eq_false_iff,
      Option.isNone_iff_eq_none] at corrected
    exact iff_of_true rfl ⟨not_not.mp version, corrected.1, corrected.2, by simpa using status⟩

theorem corrects_iff {current proposed : ConversionOutcomeIdentity} :
    correctionViolation current proposed = none ↔ Corrects current proposed := by
  simp only [correctionViolation]
  split_ifs with named reasoned status
  · exact iff_of_false (by simp) fun corrects => named corrects.supersedes
  · refine iff_of_false (by simp) fun corrects => ?_
    obtain ⟨reason, carried, filled⟩ := corrects.reasoned
    simp [carried, filled] at reasoned
  · exact iff_of_false (by simp) fun corrects => corrects.status status
  · refine iff_of_true rfl ⟨not_not.mp named, ?_, status⟩
    cases carried : proposed.correctionReason with
    | none => simp [carried] at reasoned
    | some reason => exact ⟨reason, rfl, by simpa [carried] using reasoned⟩

/-! ## The latest outcome -/

theorem precedes_version {a b : ConversionOutcomeIdentity} (before : a.precedes b = true) :
    a.sourceEventVersion ≤ b.sourceEventVersion := by
  simp only [precedes, Bool.or_eq_true, Bool.and_eq_true, decide_eq_true_eq] at before
  omega

theorem version_of_not_precedes {a b : ConversionOutcomeIdentity} (after : a.precedes b = false) :
    b.sourceEventVersion ≤ a.sourceEventVersion := by
  simp only [precedes, Bool.or_eq_false_iff, decide_eq_false_iff_not] at after
  omega

theorem latest_of_fold (first : ConversionOutcomeIdentity)
    (rest : List ConversionOutcomeIdentity) :
    let last := rest.foldl (fun best item => if item.precedes best then best else item) first
    last ∈ first :: rest ∧
      ∀ a ∈ first :: rest, a.sourceEventVersion ≤ last.sourceEventVersion := by
  induction rest generalizing first with
  | nil => simp
  | cons next rest ih =>
      simp only [List.foldl_cons]
      by_cases before : next.precedes first = true
      · rw [if_pos before]
        obtain ⟨member, greatest⟩ := ih first
        have below := precedes_version before
        refine ⟨by simp only [List.mem_cons] at member ⊢; tauto, ?_⟩
        intro a inside
        rcases List.mem_cons.mp inside with rfl | further
        · exact greatest a List.mem_cons_self
        · rcases List.mem_cons.mp further with rfl | later
          · exact below.trans (greatest first List.mem_cons_self)
          · exact greatest a (List.mem_cons_of_mem _ later)
      · rw [if_neg before]
        obtain ⟨member, greatest⟩ := ih next
        have above := version_of_not_precedes (Bool.eq_false_iff.mpr before)
        refine ⟨List.mem_cons_of_mem _ member, ?_⟩
        intro a inside
        rcases List.mem_cons.mp inside with rfl | further
        · exact above.trans (greatest next List.mem_cons_self)
        · exact greatest a further

/-- The latest outcome is one of them, and none has a later version. -/
theorem latest_greatest {outcomes : List ConversionOutcomeIdentity}
    {last : ConversionOutcomeIdentity} (latest_ : latest outcomes = some last) :
    last ∈ outcomes ∧ ∀ a ∈ outcomes, a.sourceEventVersion ≤ last.sourceEventVersion := by
  cases outcomes with
  | nil => cases latest_
  | cons first rest =>
      cases latest_
      exact latest_of_fold first rest

theorem latest_eq_none {outcomes : List ConversionOutcomeIdentity} :
    latest outcomes = none ↔ outcomes = [] := by
  cases outcomes with
  | nil => simp [latest]
  | cons first rest => simp [latest]

namespace History

variable {outcomes : List ConversionOutcomeIdentity}

theorem nil : History [] := ⟨by simp, List.IsChain.nil, by simp⟩

/-- The versions count from one. -/
theorem version (history : History outcomes) (index : Nat) (inside : index < outcomes.length) :
    outcomes[index].sourceEventVersion = index + 1 := by
  induction index with
  | zero =>
      have first := history.started outcomes[0] (List.head?_eq_getElem? ▸ List.getElem?_eq_getElem _)
      rw [first.version]
      rfl
  | succ index ih =>
      have next := List.isChain_iff_getElem.mp history.chained index inside
      rw [next.version, ih (by omega)]
      push_cast
      ring

theorem versions_increase (history : History outcomes) :
    outcomes.Pairwise fun a b => a.sourceEventVersion < b.sourceEventVersion := by
  rw [List.pairwise_iff_getElem]
  intro i j insideI insideJ below
  rw [history.version i insideI, history.version j insideJ]
  omega

/-- The recording times increase as well. -/
theorem recorded_increase (history : History outcomes) :
    outcomes.Pairwise fun a b => a.recordedAtUtc < b.recordedAtUtc := by
  have trans : IsTrans ConversionOutcomeIdentity fun a b => a.recordedAtUtc < b.recordedAtUtc :=
    ⟨fun _ _ _ first second => Int.lt_trans first second⟩
  exact List.isChain_iff_pairwise.mp (history.chained.imp fun _ _ next => next.recorded)

theorem eq_of_version (history : History outcomes) {a b : ConversionOutcomeIdentity}
    (first : a ∈ outcomes) (second : b ∈ outcomes)
    (same : a.sourceEventVersion = b.sourceEventVersion) : a = b := by
  obtain ⟨i, insideI, rfl⟩ := List.mem_iff_getElem.mp first
  obtain ⟨j, insideJ, rfl⟩ := List.mem_iff_getElem.mp second
  rw [history.version i insideI, history.version j insideJ] at same
  have index : i = j := by omega
  subst index
  rfl

/-- Of the rows of a history, read in any order, the last outcome is the latest. -/
theorem latest_of_perm (history : History outcomes) {rows : List ConversionOutcomeIdentity}
    (perm : rows.Perm outcomes) : latest rows = outcomes.getLast? := by
  cases ends : outcomes.getLast? with
  | none =>
      rw [List.getLast?_eq_none_iff] at ends
      subst ends
      rw [List.perm_nil.mp perm]
      rfl
  | some last =>
      have lastIn : last ∈ outcomes := List.mem_of_getLast? ends
      cases found : latest rows with
      | none =>
          rw [latest_eq_none.mp found] at perm
          rw [← perm.nil_eq] at lastIn
          cases lastIn
      | some greatest =>
          obtain ⟨member, above⟩ := latest_greatest found
          have inside := perm.mem_iff.mp member
          have lastAbove := above last (perm.mem_iff.mpr lastIn)
          rw [List.getLast?_eq_getElem?] at ends
          obtain ⟨bound, lastIs⟩ := List.getElem?_eq_some_iff.mp ends
          obtain ⟨index, within, rfl⟩ := List.mem_iff_getElem.mp inside
          rw [← lastIs] at lastAbove ⊢
          rw [history.version _ within, history.version _ bound] at lastAbove
          have same : index = outcomes.length - 1 := by omega
          subst same
          rfl

/-- Of the rows of a history, read in any order, sorting makes the history. -/
theorem sort_of_perm (history : History outcomes) {rows : List ConversionOutcomeIdentity}
    (perm : rows.Perm outcomes) :
    (rows.insertionSort fun a b => a.precedes b) = outcomes := by
  have agree : ∀ a ∈ rows, ∀ b ∈ rows,
      a.precedes b = true ↔ a.sourceEventVersion ≤ b.sourceEventVersion := by
    intro a first b second
    refine ⟨precedes_version, fun below => ?_⟩
    by_contra not
    have above := version_of_not_precedes (Bool.eq_false_iff.mpr not)
    have same := history.eq_of_version (perm.mem_iff.mp first) (perm.mem_iff.mp second)
      (by omega)
    subst same
    exact not (by simp [precedes])
  have byVersion := List.map_insertionSort (fun a b : ConversionOutcomeIdentity => a.precedes b)
    (fun a b => a.sourceEventVersion ≤ b.sourceEventVersion) id rows agree
  rw [List.map_id, List.map_id] at byVersion
  rw [byVersion]
  have keyed : Sql.KeyedBy ConversionOutcomeIdentity.sourceEventVersion rows := by
    intro a first b second
    exact history.eq_of_version (perm.mem_iff.mp first) (perm.mem_iff.mp second)
  exact Sql.orderBy_eq_of_perm keyed perm.symm
    (history.versions_increase.imp fun below => Int.le_of_lt below)

/-- What a history begins with is a history. -/
theorem initial {first later : List ConversionOutcomeIdentity} (history : History (first ++ later)) :
    History first := by
  refine ⟨?_, history.chained.left_of_append, ?_⟩
  · intro head starts
    refine history.started head ?_
    rw [List.head?_append, starts]
    rfl
  · have unique := history.distinct
    rw [List.map_append] at unique
    exact unique.of_append_left

theorem single_iff {first : ConversionOutcomeIdentity} : History [first] ↔ Initial first := by
  constructor
  · intro history
    exact history.started first rfl
  · intro initial
    exact ⟨by rintro _ ⟨⟩; exact initial, List.IsChain.singleton _, by simp⟩

theorem concat_last_iff (history : History outcomes) {last proposed : ConversionOutcomeIdentity}
    (ends : outcomes.getLast? = some last) :
    History (outcomes ++ [proposed]) ↔
      Succeeds last proposed ∧
        proposed.conversionOutcomeId ∉ outcomes.map conversionOutcomeId := by
  have chain : (outcomes ++ [proposed]).IsChain Succeeds ↔ Succeeds last proposed := by
    rw [List.isChain_append]
    simp [history.chained, ends]
  have unique : ((outcomes ++ [proposed]).map conversionOutcomeId).Nodup ↔
      proposed.conversionOutcomeId ∉ outcomes.map conversionOutcomeId := by
    rw [List.map_append, List.nodup_append']
    simp [history.distinct]
  constructor
  · intro longer
    exact ⟨chain.mp longer.chained, unique.mp longer.distinct⟩
  · rintro ⟨next, fresh⟩
    refine ⟨?_, chain.mpr next, unique.mpr fresh⟩
    intro first starts
    rw [List.head?_append] at starts
    cases begins : outcomes.head? with
    | none =>
        rw [List.head?_eq_none_iff.mp begins] at ends
        cases ends
    | some head =>
        rw [begins] at starts
        cases starts
        exact history.started first begins

theorem not_concat_found {proposed found : ConversionOutcomeIdentity}
    (member : found ∈ outcomes)
    (same : found.conversionOutcomeId = proposed.conversionOutcomeId) :
    ¬ History (outcomes ++ [proposed]) := by
  intro longer
  have unique := longer.distinct
  rw [List.map_append, List.nodup_append'] at unique
  refine unique.2.2 (List.mem_map.mpr ⟨found, member, same⟩) ?_
  simp

/-- Past the checks of stream, version and time, an outcome succeeds another as a
correction or as a progress. -/
theorem succeeds_iff {current proposed : ConversionOutcomeIdentity}
    (stream : ¬(proposed.conversionIntentId ≠ current.conversionIntentId ∨
      proposed.target ≠ current.target ∨ proposed.sourceSystem ≠ current.sourceSystem))
    (version : ¬proposed.sourceEventVersion ≠ current.sourceEventVersion + 1)
    (recorded : ¬proposed.recordedAtUtc ≤ current.recordedAtUtc) :
    Succeeds current proposed ↔ Corrects current proposed ∨ Progresses current proposed := by
  simp only [not_or, not_not] at stream
  constructor
  · intro next
    exact next.moved
  · intro moved
    exact ⟨stream.1, stream.2.1, stream.2.2, not_not.mp version, Int.not_le.mp recorded, moved⟩

/-- The policy lets an outcome follow a history exactly when it continues the history. -/
theorem concat_iff (history : History outcomes) {proposed : ConversionOutcomeIdentity} :
    nextOutcomeViolation outcomes proposed = none ↔ History (outcomes ++ [proposed]) := by
  unfold nextOutcomeViolation
  cases found : outcomes.find? fun item =>
      item.conversionOutcomeId = proposed.conversionOutcomeId with
  | some matching_ =>
      have same := List.find?_some found
      rw [decide_eq_true_eq] at same
      exact iff_of_false (by simp) (not_concat_found (List.mem_of_find?_eq_some found) same)
  | none =>
      have fresh : proposed.conversionOutcomeId ∉ outcomes.map conversionOutcomeId := by
        intro member
        obtain ⟨item, inside, same⟩ := List.mem_map.mp member
        exact absurd (List.find?_eq_none.mp found item inside) (by simp [same])
      rw [history.latest_of_perm (List.Perm.refl _)]
      cases ends : outcomes.getLast? with
      | none =>
          rw [List.getLast?_eq_none_iff.mp ends]
          exact initial_iff.trans single_iff.symm
      | some last =>
          rw [history.concat_last_iff ends, and_iff_left fresh]
          simp only
          split_ifs with stream version recorded corrected reasoned status
          · refine iff_of_false (by simp) fun next => ?_
            simp [next.intent, next.target, next.source] at stream
          · exact iff_of_false (by simp) fun next => version next.version
          · exact iff_of_false (by simp) fun next => absurd next.recorded (Int.not_lt.mpr recorded)
          all_goals rw [succeeds_iff stream version recorded]
          · rw [corrects_iff, or_iff_left]
            intro progresses
            simp [progresses.supersedes] at corrected
          all_goals
            have uncorrected : ¬ Corrects last proposed := fun corrects => by
              simp [corrects.supersedes] at corrected
            rw [or_iff_right uncorrected]
          · refine iff_of_false (by simp) fun progresses => ?_
            simp [progresses.unreasoned] at reasoned
          · refine iff_of_false (by simp) fun progresses => ?_
            simp [progresses.status] at status
          · refine iff_of_true rfl ⟨?_, ?_, by simpa using status⟩
            · simpa using corrected
            · simpa using reasoned

/-- The policy takes a list after a history when both together are a history. -/
theorem historyViolation_iff (history : History outcomes)
    (further : List ConversionOutcomeIdentity) :
    historyViolation outcomes further = none ↔ History (outcomes ++ further) := by
  induction further generalizing outcomes with
  | nil => simp [historyViolation, history]
  | cons proposed rest ih =>
      have whole : outcomes ++ proposed :: rest = (outcomes ++ [proposed]) ++ rest := by simp
      rw [historyViolation, whole]
      cases next : nextOutcomeViolation outcomes proposed with
      | none => exact ih (history.concat_iff.mp next)
      | some reason =>
          refine iff_of_false (by simp) fun longer => ?_
          have shorter : History (outcomes ++ [proposed]) := longer.initial
          rw [history.concat_iff.mpr shorter] at next
          cases next

end History

end ConversionOutcomeIdentity

/-! ## The rows of a history, read in any order -/

section
open ConversionOutcomeIdentity

theorem historyViolation_of_perm {rows outcomes : List ConversionOutcomeIdentity}
    (history : History outcomes) (perm : rows.Perm outcomes) :
    conversionOutcomeHistoryViolation rows = none := by
  rw [conversionOutcomeHistoryViolation, history.sort_of_perm perm]
  exact (History.nil.historyViolation_iff outcomes).mpr history

theorem progression_of_history {outcomes : List ConversionOutcomeIdentity}
    {proposed : ConversionOutcomeIdentity} (history : History outcomes)
    (passes : progressionViolation outcomes proposed = none) :
    History (outcomes ++ [proposed]) := by
  unfold progressionViolation at passes
  split at passes
  · cases passes
  · exact history.concat_iff.mp passes

/-- The governed outcomes of one intent, in the order of their acceptance. -/
def OutcomesOrdered (outcomes : List GovernedConversionOutcome) : Prop :=
  History (outcomes.map GovernedConversionOutcome.identity)

theorem outcome_of_identity {outcomes : List GovernedConversionOutcome}
    (ordered : OutcomesOrdered outcomes) {a b : GovernedConversionOutcome} (first : a ∈ outcomes)
    (second : b ∈ outcomes)
    (same : (GovernedConversionOutcome.identity a).equals (GovernedConversionOutcome.identity b) =
      true) : a = b := by
  have ids := congrArg ConversionOutcomeIdentity.conversionOutcomeId (of_decide_eq_true same)
  have distinct := ordered.distinct
  rw [List.map_map] at distinct
  exact List.inj_on_of_nodup_map distinct first second ids

/-- The current outcome is the last accepted one. -/
theorem currentConversionOutcome_of_perm {rows outcomes : List GovernedConversionOutcome}
    (ordered : OutcomesOrdered outcomes) (perm : rows.Perm outcomes) :
    currentConversionOutcome rows = outcomes.getLast? := by
  have identities := perm.map GovernedConversionOutcome.identity
  have current : currentConversionOutcomeIdentity (rows.map GovernedConversionOutcome.identity) =
      (outcomes.map GovernedConversionOutcome.identity).getLast? := by
    rw [currentConversionOutcomeIdentity, historyViolation_of_perm ordered identities]
    exact ordered.latest_of_perm identities
  rw [currentConversionOutcome, current, List.getLast?_map]
  cases ends : outcomes.getLast? with
  | none => rfl
  | some last =>
      have inside : last ∈ rows := perm.mem_iff.mpr (List.mem_of_getLast? ends)
      simp only [Option.map_some, Option.bind_eq_bind, Option.bind_some]
      cases found : rows.find? fun outcome =>
          (GovernedConversionOutcome.identity outcome).equals
            (GovernedConversionOutcome.identity last) with
      | none =>
          have missed := List.find?_eq_none.mp found last inside
          simp [ConversionOutcomeIdentity.equals] at missed
      | some outcome =>
          have member := perm.mem_iff.mp (List.mem_of_find?_eq_some found)
          have same := List.find?_some found
          rw [outcome_of_identity ordered member (List.mem_of_getLast? ends) same]

/-- The elements up to a bound are a beginning when the keys do not fall. -/
theorem filter_prefix {α : Type} {key : α → Int} {bound : Int} {items : List α}
    (rising : items.Pairwise fun a b => key a ≤ key b) :
    (items.filter fun a => key a ≤ bound) <+: items := by
  induction items with
  | nil => exact List.prefix_refl []
  | cons a rest ih =>
      rw [List.pairwise_cons] at rising
      by_cases below : key a ≤ bound
      · rw [List.filter_cons_of_pos (by simpa using below)]
        exact (List.prefix_cons_inj a).mpr (ih rising.2)
      · have none_ : (a :: rest).filter (fun b => key b ≤ bound) = [] := by
          rw [List.filter_eq_nil_iff]
          intro b member
          have above : key a ≤ key b := by
            rcases List.mem_cons.mp member with rfl | later
            · exact Int.le_refl _
            · exact rising.1 b later
          simp only [decide_eq_true_eq]
          omega
        rw [none_]
        exact List.nil_prefix

/-- The outcomes that were accepted up to a time. -/
def acceptedBy (time : DateTime) (outcomes : List GovernedConversionOutcome) :
    List GovernedConversionOutcome :=
  outcomes.filter fun outcome => outcome.val.acceptedAtUtc ≤ time

/-- A slice of outcomes that were accepted one after the other is ordered as well. -/
theorem OutcomesOrdered.acceptedBy {outcomes : List GovernedConversionOutcome}
    (ordered : OutcomesOrdered outcomes)
    (accepted : outcomes.Pairwise fun a b => a.val.acceptedAtUtc ≤ b.val.acceptedAtUtc)
    (time : DateTime) : OutcomesOrdered (LotusIdea.acceptedBy time outcomes) := by
  have rising : outcomes.Pairwise fun a b =>
      a.val.acceptedAtUtc.instant ≤ b.val.acceptedAtUtc.instant := accepted
  obtain ⟨later, whole⟩ : LotusIdea.acceptedBy time outcomes <+: outcomes :=
    filter_prefix rising
  have longer := ordered
  rw [OutcomesOrdered, ← whole, List.map_append] at longer
  exact longer.initial

end

end LotusIdea

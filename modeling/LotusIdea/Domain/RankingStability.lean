import LotusIdea.Domain.RankingMetrics
import LotusIdea.Foundation.Footrule
import Mathlib.Data.Finset.Basic
import Mathlib.Data.List.MinMax

/-!
# Ranking stability

How far two snapshots of the same opportunities differ in their order: one less the
footrule distance over its largest value.  Snapshots are grouped by the identities
within the evaluated depth, and neighbours in time are compared in full, so that a
comparison fails exactly when the opportunities below that depth are not the same.
-/

set_option autoImplicit false

namespace LotusIdea

/-! ## Two orders -/

/-- `before_rank`. -/
def beforeRank (before : List String) : Dict String ℕ :=
  (before.zipIdx 1).foldl (fun ranks placed => ranks.set placed.1 placed.2) Dict.empty

/-- `abs(before_rank[identity] - rank)`. -/
def rankMove (ranks : Dict String ℕ) (placed : String × ℕ) : Except PyError ℕ :=
  (ranks.get? placed.1).elim (.error (.keyError placed.1)) fun former =>
    .ok ((former : ℤ) - placed.2).natAbs

/-- `displacement`. -/
def rankDisplacement (before after : List String) : Except PyError ℕ := do
  let moves ← (after.zipIdx 1).mapM (rankMove (beforeRank before))
  return moves.sum

/-- `maximum_displacement` for `n` items. -/
def maximumDisplacement (n : ℕ) : ℕ := n * n / 2

/-- `_normalized_rank_stability`. -/
def normalizedRankStability (before after : List String) : Except PyError ℚ := do
  validate [(decide (before.length ≠ after.length) || decide (before.toFinset ≠ after.toFinset),
    .valueError "ranking stability requires equivalent economic cohorts")]
  if before.length ≤ 1 then
    return 1
  else
    let displacement ← rankDisplacement before after
    validate [(decide (maximumDisplacement before.length = 0), .invalidOperation)]
    quantizeRate (rounded (1 - rounded (displacement / maximumDisplacement before.length)))

/-- The stability before any rounding. -/
def exactStability (n displacement : ℕ) : ℚ :=
  if n ≤ 1 then 1 else 1 - displacement / maximumDisplacement n

section Orders
variable {before after : List String}

theorem beforeRank_get? (distinct : before.Nodup) {identity : String} (listed : identity ∈ before) :
    (beforeRank before).get? identity = some (before.idxOf identity + 1) := by
  have keys : ((before.zipIdx 1).map Prod.fst).Nodup := by
    rwa [List.zipIdx_map_fst]
  have inside := List.idxOf_lt_length_of_mem listed
  have placed : (identity, before.idxOf identity + 1) ∈ before.zipIdx 1 := by
    rw [List.mk_mem_zipIdx_iff_le_and_getElem?_sub]
    refine ⟨by omega, ?_⟩
    rw [Nat.add_sub_cancel, List.getElem?_eq_getElem inside, List.getElem_idxOf]
  exact Dict.get?_fill Prod.fst Prod.snd keys placed Dict.empty

/-- The displacement of two orders of the same items is their footrule distance. -/
theorem rankDisplacement_eq (distinct : before.Nodup) (same : after.Perm before) :
    rankDisplacement before after = .ok (Footrule.distance before after) := by
  have moves : (after.zipIdx 1).mapM (rankMove (beforeRank before)) =
      .ok ((after.zipIdx 1).map fun placed =>
        ((before.idxOf placed.1 + 1 : ℕ) - (placed.2 : ℤ)).natAbs) := by
    apply Except.mapM_ok
    intro placed listed
    have member : placed.1 ∈ before := same.subset (List.fst_mem_of_mem_zipIdx listed)
    rw [rankMove, beforeRank_get? distinct member]
    rfl
  have shifted : (after.zipIdx 1).map (fun placed =>
      ((before.idxOf placed.1 + 1 : ℕ) - (placed.2 : ℤ)).natAbs) =
      Footrule.displacements before after := by
    rw [Footrule.displacements, Footrule.places, List.zipIdx_map, List.map_map,
      List.zipIdx_eq_map_add, List.map_map]
    apply List.map_congr_left
    intro placed _
    simp only [Function.comp_apply, Prod.map, id_eq]
    push_cast
    congr 1
    ring
  rw [rankDisplacement, moves, shifted]
  rfl

theorem maximumDisplacement_eq (n : ℕ) : maximumDisplacement n = n ^ 2 / 2 := by
  rw [maximumDisplacement, sq]

theorem maximumDisplacement_pos {n : ℕ} (several : 1 < n) : 0 < maximumDisplacement n := by
  have square : 2 * 2 ≤ n * n := Nat.mul_le_mul several several
  unfold maximumDisplacement
  omega

theorem displacement_le (distinct : before.Nodup) (same : after.Perm before) :
    Footrule.distance before after ≤ maximumDisplacement before.length := by
  rw [maximumDisplacement_eq]
  exact Footrule.distance_le distinct same

theorem displaced_unit {n displacement : ℕ} (le : displacement ≤ maximumDisplacement n)
    (several : 1 < n) : UnitRate ((displacement : ℚ) / maximumDisplacement n) := by
  have positive : (0 : ℚ) < maximumDisplacement n := by
    exact_mod_cast maximumDisplacement_pos several
  refine ⟨by positivity, ?_⟩
  rw [div_le_one positive]
  exact_mod_cast le

theorem UnitRate.complement {rate : ℚ} (unit : UnitRate rate) : UnitRate (1 - rate) :=
  ⟨sub_nonneg.mpr unit.le_one, sub_le_self 1 unit.nonneg⟩

theorem exactStability_unit {n displacement : ℕ} (le : displacement ≤ maximumDisplacement n) :
    UnitRate (exactStability n displacement) := by
  unfold exactStability
  split
  · exact ⟨zero_le_one, le_rfl⟩
  · rename_i several
    exact (displaced_unit le (by omega)).complement

theorem exactStability_eq_one {n displacement : ℕ} (le : displacement ≤ maximumDisplacement n) :
    exactStability n displacement = 1 ↔ displacement = 0 := by
  unfold exactStability
  split
  · rename_i few
    have none : maximumDisplacement n = 0 := by
      unfold maximumDisplacement
      interval_cases n <;> rfl
    exact iff_of_true rfl (by omega)
  · rename_i several
    have positive : (0 : ℚ) < maximumDisplacement n := by
      exact_mod_cast maximumDisplacement_pos (by omega)
    rw [sub_eq_self, div_eq_zero_iff, or_iff_left positive.ne']
    exact Nat.cast_eq_zero

/-- Of several items in two orders the stability is computed, whatever their number. -/
theorem normalizedRankStability_several (distinct : before.Nodup) (same : after.Perm before)
    (several : 1 < before.length) :
    normalizedRankStability before after =
      quantizeRate (rounded (1 - rounded
        (Footrule.distance before after / maximumDisplacement before.length))) := by
  have cohort : validate [(decide (before.length ≠ after.length) ||
      decide (before.toFinset ≠ after.toFinset),
      PyError.valueError "ranking stability requires equivalent economic cohorts")] = .ok () := by
    rw [validate_eq_ok]
    simp [same.length_eq, List.toFinset_eq_of_perm _ _ same]
  have defined : validate [(decide (maximumDisplacement before.length = 0),
      PyError.invalidOperation)] = .ok () := by
    rw [validate_eq_ok]
    simp [(maximumDisplacement_pos several).ne']
  have few : ¬ before.length ≤ 1 := by omega
  rw [normalizedRankStability, cohort]
  simp only [bind, Except.bind, if_neg few, rankDisplacement_eq distinct same, defined]

theorem normalizedRankStability_single (same : after.Perm before) (few : before.length ≤ 1) :
    normalizedRankStability before after = .ok 1 := by
  have cohort : validate [(decide (before.length ≠ after.length) ||
      decide (before.toFinset ≠ after.toFinset),
      PyError.valueError "ranking stability requires equivalent economic cohorts")] = .ok () := by
    rw [validate_eq_ok]
    simp [same.length_eq, List.toFinset_eq_of_perm _ _ same]
  rw [normalizedRankStability, cohort]
  simp only [bind, Except.bind, if_pos few]
  rfl

/-- The stability of two orders of the same items is a rate. -/
theorem normalizedRankStability_unit (distinct : before.Nodup) (same : after.Perm before) :
    ∃ stability, normalizedRankStability before after = .ok stability ∧ UnitRate stability := by
  by_cases few : before.length ≤ 1
  · exact ⟨1, normalizedRankStability_single same few, zero_le_one, le_rfl⟩
  · have several : 1 < before.length := by omega
    have moved := rounded_unit (displaced_unit (displacement_le distinct same) several)
    have unit := rounded_unit moved.complement
    rw [normalizedRankStability_several distinct same several]
    exact quantizeRate_unit unit.nonneg unit.le_one

theorem quantizeRate_one : quantizeRate (1 : ℚ) = .ok 1 := by
  have steps : rateSteps (1 : ℚ) = 10 ^ 6 := by
    rw [rateSteps, if_pos zero_le_one, Int.floor_eq_iff]
    norm_num
  have small : ¬ 10 ^ contextDigits ≤ (rateSteps (1 : ℚ)).natAbs := by
    rw [steps]
    decide
  rw [quantizeRate, validate_eq_ok.mpr (by simp [small]), steps]
  norm_num [bind, Except.bind, pure, Except.pure]

theorem quantizeRate_le {value rate : ℚ} {n : ℤ} (ran : quantizeRate value = .ok rate)
    (nonneg : 0 ≤ value) (le : value * 10 ^ 6 ≤ n) : rate * 10 ^ 6 ≤ n := by
  obtain ⟨_, _, ran⟩ := Except.seq_returns.mp ran
  cases ran
  have steps : rateSteps value ≤ n := by
    rw [rateSteps, if_pos nonneg]
    have below : value * 10 ^ 6 + 1 / 2 < ((n + 1 : ℤ) : ℚ) := by
      push_cast
      linarith
    exact Int.lt_add_one_iff.mp (Int.floor_lt.mpr below)
  rw [div_mul_cancel₀ _ (by norm_num)]
  exact_mod_cast steps

/-- Equal orders are stable. -/
theorem normalizedRankStability_self (distinct : before.Nodup) :
    normalizedRankStability before before = .ok 1 := by
  by_cases few : before.length ≤ 1
  · exact normalizedRankStability_single (List.Perm.refl _) few
  · have zero : rounded 0 = 0 := by simp [rounded, DecimalContext.round, DecimalContext.halfEven]
    rw [normalizedRankStability_several distinct (List.Perm.refl _) (by omega),
      (Footrule.distance_eq_zero distinct (List.Perm.refl _)).mpr rfl, Nat.cast_zero, zero_div,
      zero, sub_zero, rounded_one, quantizeRate_one]

/-- Among the opportunities that a snapshot shows, a move counts in the fourth decimal. -/
theorem normalizedRankStability_lt_one (distinct : before.Nodup) (same : after.Perm before)
    (shown : before.length ≤ maxPresentedCandidateCount) (other : before ≠ after)
    {stability : ℚ} (ran : normalizedRankStability before after = .ok stability) :
    stability < 1 := by
  have bound : before.length ≤ 100 := by
    unfold maxPresentedCandidateCount at shown
    omega
  have moved : Footrule.distance before after ≠ 0 := fun still =>
    other ((Footrule.distance_eq_zero distinct same).mp still)
  have le := displacement_le distinct same
  have several : 1 < before.length := by
    by_contra single
    have none : maximumDisplacement before.length = 0 := by
      unfold maximumDisplacement
      interval_cases before.length <;> rfl
    omega
  have largest : maximumDisplacement before.length ≤ 5000 := by
    have square : before.length * before.length ≤ 100 * 100 := Nat.mul_le_mul bound bound
    unfold maximumDisplacement
    omega
  have positive : (0 : ℚ) < maximumDisplacement before.length := by
    exact_mod_cast maximumDisplacement_pos several
  have share : ((2 : ℕ) : ℚ) * 10 ^ (-4 : ℤ) ≤
      (Footrule.distance before after : ℚ) / maximumDisplacement before.length := by
    rw [le_div_iff₀ positive]
    have one : (1 : ℚ) ≤ Footrule.distance before after := by
      exact_mod_cast Nat.pos_of_ne_zero moved
    have top : (maximumDisplacement before.length : ℚ) ≤ 5000 := by exact_mod_cast largest
    norm_num
    linarith
  have unit := rounded_unit (displaced_unit le several)
  have shareKept : rounded ((2 : ℕ) * 10 ^ (-4 : ℤ)) = (2 : ℕ) * 10 ^ (-4 : ℤ) :=
    DecimalContext.round_exact (by decide) _
  have restKept : rounded ((9998 : ℕ) * 10 ^ (-4 : ℤ)) = (9998 : ℕ) * 10 ^ (-4 : ℤ) :=
    DecimalContext.round_exact (by decide) _
  have near : ((2 : ℕ) : ℚ) * 10 ^ (-4 : ℤ) ≤
      rounded ((Footrule.distance before after : ℚ) / maximumDisplacement before.length) := by
    rw [← shareKept]
    exact DecimalContext.round_mono (by positivity) share (by decide)
  have rest : 1 - rounded ((Footrule.distance before after : ℚ) /
      maximumDisplacement before.length) ≤ (9998 : ℕ) * 10 ^ (-4 : ℤ) := by
    norm_num at near ⊢
    linarith
  have far : rounded (1 - rounded ((Footrule.distance before after : ℚ) /
      maximumDisplacement before.length)) ≤ (9998 : ℕ) * 10 ^ (-4 : ℤ) := by
    rw [← restKept]
    exact DecimalContext.round_mono unit.complement.nonneg rest (by decide)
  rw [normalizedRankStability_several distinct same several] at ran
  have steps := quantizeRate_le (n := 999800) ran (rounded_unit unit.complement).nonneg (by
    norm_num at far ⊢
    linarith)
  norm_num at steps
  linarith

/-- The displacement of two orders of the same items is at most half the square of
their number, so that the stability is there and a rate, whatever the number; it is
one for equal orders alone, and so is its rounded value on what a snapshot shows. -/
theorem rank_stability_bounded (distinct : before.Nodup) (same : after.Perm before) :
    ∃ displacement stability, rankDisplacement before after = .ok displacement ∧
      displacement ≤ before.length ^ 2 / 2 ∧
      UnitRate (exactStability before.length displacement) ∧
      (exactStability before.length displacement = 1 ↔ before = after) ∧
      normalizedRankStability before after = .ok stability ∧ UnitRate stability ∧
      (before = after → stability = 1) ∧
      (before.length ≤ maxPresentedCandidateCount → stability = 1 → before = after) := by
  have le := displacement_le distinct same
  obtain ⟨stability, ran, unit⟩ := normalizedRankStability_unit distinct same
  refine ⟨_, stability, rankDisplacement_eq distinct same, ?_, exactStability_unit le, ?_, ran,
    unit, ?_, ?_⟩
  · rw [← maximumDisplacement_eq]
    exact le
  · rw [exactStability_eq_one le, Footrule.distance_eq_zero distinct same]
  · rintro rfl
    rw [normalizedRankStability_self distinct] at ran
    cases ran
    rfl
  · intro shown one
    by_contra other
    exact (normalizedRankStability_lt_one distinct same shown other ran).ne one

/-- Three items of which two changed places. -/
theorem rank_stability_bounded_sample : ∃ displacement stability,
    rankDisplacement ["a", "b", "c"] ["b", "a", "c"] = .ok displacement ∧ displacement ≤ 4 ∧
      normalizedRankStability ["a", "b", "c"] ["b", "a", "c"] = .ok stability ∧
      UnitRate stability := by
  have distinct : ["a", "b", "c"].Nodup := by decide
  have same : ["b", "a", "c"].Perm ["a", "b", "c"] := List.Perm.swap "a" "b" ["c"]
  obtain ⟨displacement, stability, displaced, le, -, -, ran, unit, -⟩ :=
    rank_stability_bounded distinct same
  exact ⟨displacement, stability, displaced, le, ran, unit⟩

end Orders

/-! ## Many snapshots -/

structure RankingStabilityAggregate where
  comparableSnapshotPairCount : ℕ
  meanNormalizedStability : Option ℚ

/-- What comparable snapshots share. -/
structure StabilityKey where
  identities : Finset String
  rankingPolicyVersion : String
  evaluatedDepth : ℕ
  deriving DecidableEq

/-- The key of a snapshot, or none where it is skipped; of the cutoffs that reach
the same depth the first is taken. -/
def stabilityKey (snapshot : RankingQueueSnapshotEvaluation) :
    Except PyError (Option StabilityKey) :=
  match snapshot.evaluation.cutoffEvaluations.argmax fun item => item.evaluatedDepth with
  | none => .ok none
  | some population =>
      if population.status = .incompletePresentation then .ok none
      else
        let identities := snapshot.rankedEconomicIdentityIds.take population.evaluatedDepth
        if ¬ identities.Nodup then
          .error
            (.valueError "ranking stability requires unique economic identities per snapshot")
        else
          .ok (some
            { identities := identities.toFinset
              rankingPolicyVersion := snapshot.rankingPolicyVersion
              evaluatedDepth := population.evaluatedDepth })

def keyedSnapshot (snapshot : RankingQueueSnapshotEvaluation) :
    Except PyError (Option StabilityKey × RankingQueueSnapshotEvaluation) := do
  let key ← stabilityKey snapshot
  return (key, snapshot)

/-- `(presented_at_utc, queue_snapshot_digest)` of one is not behind that of the other. -/
def presentedBefore (a b : RankingQueueSnapshotEvaluation) : Bool :=
  a.presentedAtUtc < b.presentedAtUtc ||
    (!decide (b.presentedAtUtc < a.presentedAtUtc) &&
      a.queueSnapshotDigest ≤ b.queueSnapshotDigest)

/-- Neighbours in the order of their presentation. -/
def adjacentOrders (group : List RankingQueueSnapshotEvaluation) :
    List (List String × List String) :=
  let ordered := (group.insertionSort fun a b => presentedBefore a b).map fun snapshot =>
    snapshot.rankedEconomicIdentityIds
  ordered.zip ordered.tail

/-- The orders that are compared, group by group. -/
def comparedOrders (keyed : List (Option StabilityKey × RankingQueueSnapshotEvaluation)) :
    List (List String × List String) :=
  let compared := keyed.filterMap fun snapshot => snapshot.1.map fun key => (key, snapshot.2)
  (Dict.groupBy Prod.fst compared).values.flatMap fun group =>
    adjacentOrders (group.map Prod.snd)

def meanStability (values : List ℚ) : Except PyError (Option ℚ) :=
  if values.isEmpty then .ok none
  else some <$> quantizeRate (rounded (values.sum / values.length))

/-- `evaluate_ranking_stability`. -/
def evaluateRankingStability (evaluations : List RankingQueueSnapshotEvaluation) :
    Except PyError RankingStabilityAggregate := do
  let keyed ← evaluations.mapM keyedSnapshot
  let values ← (comparedOrders keyed).mapM fun orders =>
    normalizedRankStability orders.1 orders.2
  let mean ← meanStability values
  return { comparableSnapshotPairCount := values.length, meanNormalizedStability := mean }

/-- Of a list whose neighbours agree all members agree. -/
theorem agree_of_adjacent {α β : Type} {f : α → β} {items : List α}
    (adjacent : ∀ pair ∈ items.zip items.tail, f pair.1 = f pair.2) :
    ∀ a ∈ items, ∀ b ∈ items, f a = f b := by
  induction items with
  | nil =>
      intro a absent
      cases absent
  | cons first rest ih =>
      have later : ∀ a ∈ rest, f first = f a := by
        cases rest with
        | nil =>
            intro a absent
            cases absent
        | cons second others =>
            have near : f first = f second := adjacent (first, second) List.mem_cons_self
            have inner := ih fun pair listed => adjacent pair (List.mem_cons_of_mem _ listed)
            intro a listed
            rw [near]
            exact inner second List.mem_cons_self a listed
      have among : ∀ a ∈ rest, ∀ b ∈ rest, f a = f b := by
        intro a inRest b alsoInRest
        rw [← later a inRest, later b alsoInRest]
      intro a listed b alsoListed
      rcases List.mem_cons.mp listed with rfl | inRest
      · rcases List.mem_cons.mp alsoListed with rfl | alsoInRest
        · rfl
        · exact later b alsoInRest
      · rcases List.mem_cons.mp alsoListed with rfl | alsoInRest
        · exact (later a inRest).symm
        · exact among a inRest b alsoInRest

/-- Two snapshots that are compared when they are neighbours. -/
def Comparable (a b : RankingQueueSnapshotEvaluation) : Prop :=
  ∃ key, stabilityKey a = .ok (some key) ∧ stabilityKey b = .ok (some key)

/-- The key of a snapshot whose identities are distinct. -/
def keyOf (snapshot : RankingQueueSnapshotEvaluation) : Option StabilityKey :=
  (stabilityKey snapshot).toOption.join

theorem stabilityKey_distinct {snapshot : RankingQueueSnapshotEvaluation}
    (distinct : snapshot.rankedEconomicIdentityIds.Nodup) :
    stabilityKey snapshot = .ok (keyOf snapshot) := by
  have returned : ∃ key, stabilityKey snapshot = .ok key := by
    unfold stabilityKey
    split
    · exact ⟨none, rfl⟩
    · rename_i population _
      split
      · exact ⟨none, rfl⟩
      · have own : (snapshot.rankedEconomicIdentityIds.take population.evaluatedDepth).Nodup :=
          distinct.sublist (List.take_sublist _ _)
        simp only [own, not_true_eq_false, if_false]
        exact ⟨_, rfl⟩
  obtain ⟨key, ran⟩ := returned
  simp [keyOf, ran, Except.toOption]

theorem normalizedRankStability_equivalent {before after : List String} {stability : ℚ}
    (ran : normalizedRankStability before after = .ok stability) :
    before.toFinset = after.toFinset := by
  obtain ⟨_, cohort, -⟩ := Except.seq_returns.mp ran
  have passed := validate_eq_ok.mp cohort
  simp only [firstFailure_cons, Bool.or_eq_false_iff, decide_eq_false_iff_not, not_not] at passed
  exact passed.1.2

theorem mem_of_adjacent {α : Type} {items : List α} {pair : α × α}
    (listed : pair ∈ items.zip items.tail) : pair.1 ∈ items ∧ pair.2 ∈ items := by
  obtain ⟨first, second⟩ := List.of_mem_zip listed
  exact ⟨first, List.mem_of_mem_tail second⟩

section Groups
variable {evaluations : List RankingQueueSnapshotEvaluation}

theorem mem_adjacentOrders {group : List RankingQueueSnapshotEvaluation}
    {orders : List String × List String} (listed : orders ∈ adjacentOrders group) :
    ∃ a ∈ group, ∃ b ∈ group,
      orders = (a.rankedEconomicIdentityIds, b.rankedEconomicIdentityIds) := by
  obtain ⟨first, second⟩ := mem_of_adjacent listed
  obtain ⟨a, inGroup, former⟩ := List.mem_map.mp first
  obtain ⟨b, alsoInGroup, latter⟩ := List.mem_map.mp second
  exact ⟨a, (List.mem_insertionSort _).mp inGroup, b, (List.mem_insertionSort _).mp alsoInGroup,
    Prod.ext former.symm latter.symm⟩

/-- The group of a key. -/
theorem mem_comparedOrders {orders : List String × List String} :
    orders ∈ comparedOrders (evaluations.map fun snapshot => (keyOf snapshot, snapshot)) ↔
      ∃ key, orders ∈ adjacentOrders
        (evaluations.filter fun snapshot => keyOf snapshot = some key) := by
  have members : ∀ key, (((evaluations.map fun snapshot => (keyOf snapshot, snapshot)).filterMap
      fun snapshot => snapshot.1.map fun own => (own, snapshot.2)).filter
        fun compared => compared.1 = key).map Prod.snd =
      evaluations.filter fun snapshot => keyOf snapshot = some key := by
    intro key
    induction evaluations with
    | nil => rfl
    | cons first rest ih =>
        cases own : keyOf first with
        | none => simpa [own] using ih
        | some found =>
            by_cases same : found = key
            · simpa [own, same] using ih
            · simpa [own, same] using ih
  simp only [comparedOrders, List.mem_flatMap, Dict.mem_values_groupBy]
  constructor
  · rintro ⟨group, ⟨key, rfl, -⟩, listed⟩
    rw [members] at listed
    exact ⟨key, listed⟩
  · rintro ⟨key, listed⟩
    refine ⟨_, ⟨key, rfl, ?_⟩, by rwa [members]⟩
    intro none
    have empty := members key
    rw [none] at empty
    rw [← empty] at listed
    cases listed

/-- Each comparison is of two comparable snapshots. -/
theorem comparable_of_compared
    (distinct : ∀ snapshot ∈ evaluations, snapshot.rankedEconomicIdentityIds.Nodup)
    {orders : List String × List String}
    (listed : orders ∈ comparedOrders (evaluations.map fun snapshot => (keyOf snapshot, snapshot))) :
    ∃ a ∈ evaluations, ∃ b ∈ evaluations, Comparable a b ∧
      orders = (a.rankedEconomicIdentityIds, b.rankedEconomicIdentityIds) := by
  obtain ⟨key, adjacent⟩ := mem_comparedOrders.mp listed
  obtain ⟨a, inGroup, b, alsoInGroup, same⟩ := mem_adjacentOrders adjacent
  obtain ⟨member, own⟩ := List.mem_filter.mp inGroup
  obtain ⟨alsoMember, alsoOwn⟩ := List.mem_filter.mp alsoInGroup
  refine ⟨a, member, b, alsoMember, ⟨key, ?_, ?_⟩, same⟩
  · rw [stabilityKey_distinct (distinct a member), of_decide_eq_true own]
  · rw [stabilityKey_distinct (distinct b alsoMember), of_decide_eq_true alsoOwn]

/-- Where all comparisons are of the same opportunities, so are all comparable snapshots. -/
theorem agree_of_compared
    (same : ∀ orders ∈ comparedOrders (evaluations.map fun snapshot => (keyOf snapshot, snapshot)),
      orders.1.toFinset = orders.2.toFinset)
    {a b : RankingQueueSnapshotEvaluation} (member : a ∈ evaluations) (alsoMember : b ∈ evaluations)
    (comparable : Comparable a b) :
    a.rankedEconomicIdentityIds.toFinset = b.rankedEconomicIdentityIds.toFinset := by
  obtain ⟨key, own, alsoOwn⟩ := comparable
  have keyed : keyOf a = some key := by simp [keyOf, own, Except.toOption]
  have alsoKeyed : keyOf b = some key := by simp [keyOf, alsoOwn, Except.toOption]
  have adjacent : ∀ pair ∈ adjacentOrders
      (evaluations.filter fun snapshot => keyOf snapshot = some key),
      pair.1.toFinset = pair.2.toFinset := fun pair listed =>
    same pair (mem_comparedOrders.mpr ⟨key, listed⟩)
  apply agree_of_adjacent adjacent
  · refine List.mem_map.mpr ⟨a, (List.mem_insertionSort _).mpr ?_, rfl⟩
    exact List.mem_filter.mpr ⟨member, by simpa using keyed⟩
  · refine List.mem_map.mpr ⟨b, (List.mem_insertionSort _).mpr ?_, rfl⟩
    exact List.mem_filter.mpr ⟨alsoMember, by simpa using alsoKeyed⟩

theorem meanStability_unit {values : List ℚ} (unit : ∀ value ∈ values, UnitRate value) :
    ∃ mean, meanStability values = .ok mean ∧ ∀ rate ∈ mean, UnitRate rate := by
  unfold meanStability
  cases empty : values.isEmpty with
  | true => exact ⟨none, rfl, fun rate absent => (nomatch absent)⟩
  | false =>
      have positive : (0 : ℚ) < values.length := by
        have nonempty : values ≠ [] := by simpa using empty
        exact_mod_cast List.length_pos_of_ne_nil nonempty
      obtain ⟨nonneg, bounded⟩ := sum_unit unit
      have mean : UnitRate (values.sum / values.length) :=
        ⟨by positivity, (div_le_one positive).mpr bounded⟩
      obtain ⟨rate, ran, between⟩ :=
        quantizeRate_unit (rounded_unit mean).nonneg (rounded_unit mean).le_one
      rw [if_neg Bool.false_ne_true, ran]
      refine ⟨some rate, rfl, ?_⟩
      intro own same
      cases same
      exact between

theorem meanStability_ones {values : List ℚ} (ones : ∀ value ∈ values, value = 1)
    {mean : Option ℚ} (ran : meanStability values = .ok mean) : ∀ rate ∈ mean, rate = 1 := by
  unfold meanStability at ran
  cases empty : values.isEmpty with
  | true =>
      rw [empty] at ran
      cases ran
      intro rate absent
      cases absent
  | false =>
      have sum : values.sum = values.length := by
        rw [List.eq_replicate_of_mem ones, List.sum_replicate, List.length_replicate, nsmul_one]
      have some : (values.length : ℚ) ≠ 0 := by
        have nonempty : values ≠ [] := by simpa using empty
        exact_mod_cast (List.length_pos_of_ne_nil nonempty).ne'
      rw [empty, if_neg Bool.false_ne_true, sum, div_self some, rounded_one, quantizeRate_one] at ran
      cases ran
      intro rate same
      cases same
      rfl

/-- The stability of the snapshots is there, is a rate, and is one where every two
orders that are compared are equal. -/
structure StabilityNormalized (evaluations : List RankingQueueSnapshotEvaluation)
    (keyed : List (Option StabilityKey × RankingQueueSnapshotEvaluation))
    (aggregate : RankingStabilityAggregate) : Prop where
  grouped : evaluations.mapM keyedSnapshot = .ok keyed
  returned : evaluateRankingStability evaluations = .ok aggregate
  rate : ∀ mean ∈ aggregate.meanNormalizedStability, UnitRate mean
  equal : (∀ orders ∈ comparedOrders keyed, orders.1 = orders.2) →
    ∀ mean ∈ aggregate.meanNormalizedStability, mean = 1

theorem keyed_distinct
    (distinct : ∀ snapshot ∈ evaluations, snapshot.rankedEconomicIdentityIds.Nodup) :
    evaluations.mapM keyedSnapshot =
      .ok (evaluations.map fun snapshot => (keyOf snapshot, snapshot)) := by
  apply Except.mapM_ok
  intro snapshot listed
  rw [keyedSnapshot, stabilityKey_distinct (distinct snapshot listed)]
  rfl

/-- The comparisons of equivalent snapshots. -/
theorem stability_of_equivalent
    (distinct : ∀ snapshot ∈ evaluations, snapshot.rankedEconomicIdentityIds.Nodup)
    (equivalent : ∀ a ∈ evaluations, ∀ b ∈ evaluations, Comparable a b →
      a.rankedEconomicIdentityIds.toFinset = b.rankedEconomicIdentityIds.toFinset) :
    ∃ keyed aggregate, StabilityNormalized evaluations keyed aggregate := by
  have keyed := keyed_distinct distinct
  generalize shape : (evaluations.map fun snapshot => (keyOf snapshot, snapshot)) = groups at keyed
  have each : ∀ orders ∈ comparedOrders groups, ∃ stability,
      normalizedRankStability orders.1 orders.2 = .ok stability ∧
        (UnitRate stability ∧ ∃ own ∈ comparedOrders groups, own.1.Nodup ∧
          normalizedRankStability own.1 own.2 = .ok stability) := by
    intro orders listed
    rw [← shape] at listed ⊢
    obtain ⟨a, member, b, alsoMember, comparable, rfl⟩ := comparable_of_compared distinct listed
    have same : b.rankedEconomicIdentityIds.Perm a.rankedEconomicIdentityIds := by
      apply List.perm_of_nodup_nodup_toFinset_eq (distinct b alsoMember) (distinct a member)
      exact (equivalent a member b alsoMember comparable).symm
    obtain ⟨stability, ran, unit⟩ := normalizedRankStability_unit (distinct a member) same
    exact ⟨stability, ran, unit, _, listed, distinct a member, ran⟩
  obtain ⟨values, compared, -, units⟩ := Except.mapM_returns each
  obtain ⟨mean, averaged, rate⟩ := meanStability_unit fun value listed => (units value listed).1
  refine ⟨groups, ⟨values.length, mean⟩, keyed, ?_, rate, ?_⟩
  · rw [evaluateRankingStability, keyed]
    simp only [bind, Except.bind, compared, averaged]
    rfl
  · intro equal
    apply meanStability_ones _ averaged
    intro value listed
    obtain ⟨-, own, among, ownDistinct, ran⟩ := units value listed
    rw [← equal own among, normalizedRankStability_self ownDistinct] at ran
    cases ran
    rfl

/-- A stability that is there compared equivalent snapshots. -/
theorem equivalent_of_stability
    (distinct : ∀ snapshot ∈ evaluations, snapshot.rankedEconomicIdentityIds.Nodup)
    {aggregate : RankingStabilityAggregate}
    (ran : evaluateRankingStability evaluations = .ok aggregate)
    {a b : RankingQueueSnapshotEvaluation} (member : a ∈ evaluations)
    (alsoMember : b ∈ evaluations) (comparable : Comparable a b) :
    a.rankedEconomicIdentityIds.toFinset = b.rankedEconomicIdentityIds.toFinset := by
  obtain ⟨keyed, grouped, ran⟩ := Except.seq_returns.mp ran
  obtain ⟨values, compared, -⟩ := Except.seq_returns.mp ran
  cases grouped.symm.trans (keyed_distinct distinct)
  refine agree_of_compared ?_ member alsoMember comparable
  intro orders listed
  obtain ⟨stability, -, stable⟩ := Except.each_of_mapM compared orders listed
  exact normalizedRankStability_equivalent stable

end Groups

section Presented
variable {K : Type} [Field K] [LinearOrder K] [IsStrictOrderedRing K] [FloorRing K]
  {discount : DiscountedGain.Discount K}

theorem presented_distinct {evaluations : List RankingQueueSnapshotEvaluation}
    (presented : Presented discount evaluations) :
    ∀ snapshot ∈ evaluations, snapshot.rankedEconomicIdentityIds.Nodup := by
  intro snapshot listed
  obtain ⟨cutoffs, digest, facts, ran⟩ := presented_evaluated presented listed
  cases facts with
  | nil => cases ran
  | cons authority rest =>
      simp only [evaluateQueueSnapshot] at ran
      obtain ⟨_, consistent, ran⟩ := Except.seq_returns.mp ran
      obtain ⟨evaluation, _, ran⟩ := Except.seq_returns.mp ran
      cases ran
      have passed := validate_eq_ok.mp consistent
      simp only [firstFailure_cons, Bool.not_eq_false', decide_eq_true_eq] at passed
      exact (((List.perm_insertionSort _ _).map _).nodup_iff).mpr passed.2.1

/-- The stability of presented snapshots is as it should be where any two snapshots
that are comparable show the same opportunities in full. -/
theorem ranking_stability_iff {evaluations : List RankingQueueSnapshotEvaluation}
    (presented : Presented discount evaluations) :
    (∃ keyed aggregate, StabilityNormalized evaluations keyed aggregate) ↔
      ∀ a ∈ evaluations, ∀ b ∈ evaluations, Comparable a b →
        a.rankedEconomicIdentityIds.toFinset = b.rankedEconomicIdentityIds.toFinset := by
  have distinct := presented_distinct presented
  constructor
  · rintro ⟨keyed, aggregate, stable⟩ a member b alsoMember comparable
    exact equivalent_of_stability distinct stable.returned member alsoMember comparable
  · exact stability_of_equivalent distinct

end Presented

/-! ## A snapshot that shows more than is evaluated -/

/-- Eleven opportunities, of which the last one is given. -/
def sampleElevenFacts (digest last : String) : Except PyError (List RankingPresentationFact) :=
  (["idea-0", "idea-1", "idea-2", "idea-3", "idea-4", "idea-5", "idea-6", "idea-7", "idea-8",
    "idea-9", last].zipIdx 1).mapM fun (shown : String × ℕ) =>
      sampleFact digest shown.1 shown.2 11 none

/-- Two snapshots that differ in the eleventh opportunity, or do not. -/
def sampleElevens (same : Bool) : Except PyError (List RankingQueueSnapshotEvaluation) := do
  let former ← sampleElevenFacts "snapshot-1" "idea-a"
  let latter ← sampleElevenFacts "snapshot-2" (if same then "idea-a" else "idea-b")
  evaluateRankingPresentations rankDiscount (former ++ latter) approvedRankingCutoffs

theorem sampleElevens_presented {same : Bool} {evaluations : List RankingQueueSnapshotEvaluation}
    (ran : sampleElevens same = .ok evaluations) : Presented rankDiscount evaluations := by
  intro snapshot listed
  obtain ⟨former, -, ran⟩ := Except.seq_returns.mp ran
  obtain ⟨latter, -, ran⟩ := Except.seq_returns.mp ran
  exact ⟨former ++ latter, approvedRankingCutoffs, evaluations, ran, listed⟩

theorem sampleElevens_same : (sampleElevens true).toOption.any (fun evaluations =>
    decide (∀ a ∈ evaluations, ∀ b ∈ evaluations,
      a.rankedEconomicIdentityIds.toFinset = b.rankedEconomicIdentityIds.toFinset)) = true := by
  decide +kernel

/-- The stability is refused for want of equivalent cohorts. -/
def cohortsRefused (evaluations : List RankingQueueSnapshotEvaluation) : Bool :=
  match evaluateRankingStability evaluations with
  | .error raised =>
      decide (raised = .valueError "ranking stability requires equivalent economic cohorts")
  | .ok _ => false

theorem sampleElevens_other : (sampleElevens false).toOption.any cohortsRefused = true := by
  decide +kernel

/-- The stability of two snapshots that show the same eleven opportunities. -/
theorem ranking_stability_iff_sample : ∃ evaluations, sampleElevens true = .ok evaluations ∧
    ∃ keyed aggregate, StabilityNormalized evaluations keyed aggregate := by
  have checked := sampleElevens_same
  cases ran : sampleElevens true with
  | error raised =>
      rw [ran] at checked
      cases checked
  | ok evaluations =>
      rw [ran] at checked
      refine ⟨evaluations, rfl, ?_⟩
      apply (ranking_stability_iff (sampleElevens_presented ran)).mpr
      intro a member b alsoMember _
      exact of_decide_eq_true checked a member b alsoMember

/-- Two snapshots of eleven opportunities that differ in the last one are grouped by
the first ten, and their stability raises. -/
theorem ranking_stability_raises : ∃ evaluations, Presented rankDiscount evaluations ∧
    evaluateRankingStability evaluations =
      .error (.valueError "ranking stability requires equivalent economic cohorts") := by
  have checked := sampleElevens_other
  cases ran : sampleElevens false with
  | error raised =>
      rw [ran] at checked
      cases checked
  | ok evaluations =>
      rw [ran] at checked
      have refused : cohortsRefused evaluations = true := checked
      refine ⟨evaluations, sampleElevens_presented ran, ?_⟩
      unfold cohortsRefused at refused
      split at refused
      · rename_i raised stopped
        rw [stopped, of_decide_eq_true refused]
      · cases refused

end LotusIdea

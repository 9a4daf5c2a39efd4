import LotusIdea.Domain.SourceEvidence
import Mathlib.Data.List.Dedup

/-!
# Cuts through several sources

The posture of a cut and the digest of its revision vector look at the sources as a
set: neither the order of the references nor that of the causal inputs of a claim
matters, and a digest tells the entries.  A cut has an authoritative posture when its
claims agree, its causal inputs are there, and its sources are of one cut or were
generated within the tolerance, as a float tells the seconds between them.
-/

set_option autoImplicit false

namespace LotusIdea

/-! ## The span of a list -/

section Span
variable {α : Type} [LinearOrder α]

theorem foldl_max_spec (start : α) (values : List α) :
    start ≤ values.foldl max start ∧ (∀ v ∈ values, v ≤ values.foldl max start) ∧
      (values.foldl max start = start ∨ values.foldl max start ∈ values) := by
  induction values generalizing start with
  | nil => exact ⟨le_rfl, fun v listed => absurd listed List.not_mem_nil, Or.inl rfl⟩
  | cons first rest ih =>
      obtain ⟨above, each, found⟩ := ih (max start first)
      rw [List.foldl_cons]
      refine ⟨(le_max_left _ _).trans above, ?_, ?_⟩
      · intro v listed
        rcases List.mem_cons.mp listed with rfl | later
        · exact (le_max_right _ _).trans above
        · exact each v later
      · rcases found with kept | listed
        · rcases max_choice start first with own | new
          · exact Or.inl (kept.trans own)
          · rw [kept, new]
            exact Or.inr List.mem_cons_self
        · exact Or.inr (List.mem_cons_of_mem _ listed)

/-- The greatest of some values, found from the first one on. -/
theorem greatest_spec (start : α) {values : List α} (some : values ≠ []) :
    values.foldl max (values.headD start) ∈ values ∧
      ∀ v ∈ values, v ≤ values.foldl max (values.headD start) := by
  cases values with
  | nil => exact absurd rfl some
  | cons first rest =>
      obtain ⟨-, each, found⟩ := foldl_max_spec first (first :: rest)
      refine ⟨?_, each⟩
      rcases found with own | listed
      · rw [List.headD_cons, own]
        exact List.mem_cons_self
      · exact listed

theorem least_spec (start : α) {values : List α} (some : values ≠ []) :
    values.foldl min (values.headD start) ∈ values ∧
      ∀ v ∈ values, values.foldl min (values.headD start) ≤ v := by
  have dual : values.foldl min (values.headD start) ∈ values ∧
      ∀ v ∈ values, OrderDual.toDual v ≤
        OrderDual.toDual (values.foldl min (values.headD start)) := by
    exact greatest_spec (OrderDual.toDual start) some
  exact dual

end Span

/-- No two times of the references are further apart than the skew, and two are so far. -/
theorem generatedTimeSkew_le_iff {sourceRefs : List SourceRef} (some : sourceRefs ≠ [])
    (limit : Int) : generatedTimeSkew sourceRefs ≤ limit ↔
      ∀ a ∈ sourceRefs, ∀ b ∈ sourceRefs,
        a.val.generatedAtUtc.instant - b.val.generatedAtUtc.instant ≤ limit := by
  have timed : (sourceRefs.map fun r => r.val.generatedAtUtc.instant) ≠ [] := by
    rwa [ne_eq, List.map_eq_nil_iff]
  obtain ⟨latest, none_later⟩ := greatest_spec 0 timed
  obtain ⟨first, none_earlier⟩ := least_spec 0 timed
  rw [generatedTimeSkew]
  constructor
  · intro within a listed b listed'
    have late := none_later _ (List.mem_map_of_mem listed)
    have early := none_earlier _ (List.mem_map_of_mem listed')
    omega
  · intro within
    obtain ⟨a, listed, last⟩ := List.mem_map.mp latest
    obtain ⟨b, listed', start⟩ := List.mem_map.mp first
    rw [← last, ← start]
    exact within a listed b listed'

theorem generatedTimeSkew_nonneg (sourceRefs : List SourceRef) :
    0 ≤ generatedTimeSkew sourceRefs := by
  by_cases some : sourceRefs = []
  · rw [some]
    rfl
  · obtain ⟨r, listed⟩ := List.exists_mem_of_ne_nil _ some
    have own := (generatedTimeSkew_le_iff some _).mp le_rfl r listed r listed
    omega

theorem generatedTimeSkew_perm {sourceRefs others : List SourceRef}
    (perm : sourceRefs.Perm others) : generatedTimeSkew sourceRefs = generatedTimeSkew others := by
  have le {one two : List SourceRef} (perm : one.Perm two) :
      generatedTimeSkew one ≤ generatedTimeSkew two := by
    by_cases some : one = []
    · rw [some]
      exact generatedTimeSkew_nonneg two
    · have someToo : two ≠ [] := fun empty => some (List.Perm.eq_nil (empty ▸ perm))
      have within := (generatedTimeSkew_le_iff someToo _).mp le_rfl
      refine (generatedTimeSkew_le_iff some _).mpr fun a listed b listed' => ?_
      exact within a (perm.mem_iff.mp listed) b (perm.mem_iff.mp listed')
  exact le_antisymm (le perm) (le perm.symm)

/-- A float tells the seconds of a span of less than 2 ^ 34 well enough. -/
theorem totalSeconds_le_iff {microseconds : Int} (nonneg : 0 ≤ microseconds)
    (short : microseconds < 2 ^ 34 * 1000000) {seconds : ℕ} (fits : seconds < 2 ^ 53) :
    totalSeconds microseconds ≤ seconds ↔ microseconds ≤ seconds * 1000000 := by
  have span : (0 : ℚ) ≤ (microseconds : ℚ) := by exact_mod_cast nonneg
  have small : (microseconds : ℚ) / 1000000 < 2 ^ 34 := by
    rw [div_lt_iff₀ (by norm_num)]
    exact_mod_cast short
  have apart : (seconds : ℚ) < (microseconds : ℚ) / 1000000 →
      (seconds : ℚ) + 2 ^ (((34 : ℕ) : ℤ) - (53 : ℕ)) / 2 < (microseconds : ℚ) / 1000000 := by
    intro above
    rw [lt_div_iff₀ (by norm_num)] at above
    -- the next microsecond is more than half a bit away
    have next : (seconds : ℚ) * 1000000 + 1 ≤ microseconds := by
      have whole : (seconds : ℤ) * 1000000 < microseconds := by exact_mod_cast above
      exact_mod_cast whole
    rw [lt_div_iff₀ (by norm_num)]
    norm_num
    linarith
  rw [totalSeconds, BinaryFloat.round_le_iff (div_nonneg span (by norm_num)) small fits apart,
    div_le_iff₀ (by norm_num)]
  exact_mod_cast Iff.rfl

/-! ## The order of the references -/

section Order
variable {sourceRefs others : List SourceRef}

theorem compareCausalClaim_perm (perm : sourceRefs.Perm others) (claim : CausalInputRevision) :
    compareCausalClaim sourceRefs claim = compareCausalClaim others claim := by
  have named := perm.filter fun r => r.val.productId = claim.val.productId
  simp only [compareCausalClaim]
  generalize sourceRefs.filter (fun r => decide (r.val.productId = claim.val.productId)) = own
    at named
  generalize others.filter (fun r => decide (r.val.productId = claim.val.productId)) = theirs
    at named
  rcases own with _ | ⟨source, _ | ⟨second, rest⟩⟩
  · rw [List.nil_perm.mp named]
  · rw [List.singleton_perm.mp named]
  · rcases theirs with _ | ⟨_, _ | ⟨_, _⟩⟩
    · rfl
    · cases named.length_eq
    · rfl

theorem causalInputPosture_perm (perm : sourceRefs.Perm others) :
    causalInputPosture sourceRefs = causalInputPosture others := by
  have compared : compareCausalClaim sourceRefs = compareCausalClaim others :=
    funext (compareCausalClaim_perm perm)
  have claims := perm.flatMap_right fun r : SourceRef =>
    r.val.revisionClaims.elim [] fun claims => claims.val.causalInputRevisions
  have members (comparison : CausalComparison) :=
    (claims.map (compareCausalClaim others)).mem_iff (a := comparison)
  simp only [causalInputPosture, compared, List.contains_eq_mem, members]

theorem sourceCutPosture_perm (perm : sourceRefs.Perm others)
    (tolerance : Option SourceCutTolerance) :
    sourceCutPosture sourceRefs tolerance = sourceCutPosture others tolerance := by
  have present := perm.filterMap fun r : SourceRef => r.val.revisionClaims
  have days := (perm.map fun r => r.val.asOfDate).dedup
  have cuts := (present.map fun item => item.val.sourceCutId).dedup
  simp only [sourceCutPosture, causalInputPosture_perm perm, generatedTimeSkew_perm perm,
    present.isEmpty_eq, present.length_eq, perm.length_eq, present.any_eq, days.length_eq,
    cuts.length_eq, (present.map fun item => item.val.sourceCutId).all_eq,
    (present.map fun item => item.val.sourceCutId).any_eq]

/-- References of distinct identities are sorted alike in whatever order they stand. -/
theorem sortedSources_perm (unique : (sourceRefs.map SourceRef.identity).Nodup)
    (perm : sourceRefs.Perm others) : sortedSources sourceRefs = sortedSources others := by
  have ordered (refs : List SourceRef) : (sortedSources refs).Pairwise fun a b =>
      a.causalSorted.evidence.order ≤ b.causalSorted.evidence.order := by
    have sorted := Sql.orderBy_sorted SourceEvidence.order
      (refs.map fun r => r.causalSorted.evidence)
    rwa [← sortedSources_evidence, List.pairwise_map] at sorted
  have keyed : Sql.KeyedBy (fun r : SourceRef => r.causalSorted.evidence.order) sourceRefs :=
    fun _ listed _ listed' same => eq_of_order unique listed listed' same
  have own : (sortedSources sourceRefs).Perm sourceRefs := List.perm_insertionSort _ _
  have other : (sortedSources others).Perm others := List.perm_insertionSort _ _
  rw [← Sql.orderBy_eq_of_perm keyed own (ordered sourceRefs),
    ← Sql.orderBy_eq_of_perm keyed (other.trans perm.symm) (ordered others)]

end Order

/-- The same claims, with the causal inputs in another order. -/
def SourceRevisionClaims.Reordered (a b : SourceRevisionClaims) : Prop :=
  { a.val with causalInputRevisions := [] } = { b.val with causalInputRevisions := [] } ∧
    a.val.causalInputRevisions.Perm b.val.causalInputRevisions

/-- The same reference, with the causal inputs of its claims in another order. -/
def SourceRef.Reordered (a b : SourceRef) : Prop :=
  { a.val with revisionClaims := none } = { b.val with revisionClaims := none } ∧
    Option.Rel SourceRevisionClaims.Reordered a.val.revisionClaims b.val.revisionClaims

/-- The same references in another order, their causal inputs too. -/
def Rearranged (sourceRefs others : List SourceRef) : Prop :=
  ∃ middle, sourceRefs.Perm middle ∧ List.Forall₂ SourceRef.Reordered middle others

theorem SourceRevisionClaims.Reordered.causalSorted {a b : SourceRevisionClaims}
    (same : a.Reordered b) : a.causalSorted = b.causalSorted := by
  obtain ⟨fields, inputs⟩ := same
  have unique : (a.val.causalInputRevisions.map fun item => item.val.productId).Nodup := by
    have valid := a.valid
    simp only [SourceRevisionClaimsFields.checks, firstFailure_append, firstFailure_cons,
      Bool.not_eq_false', decide_eq_true_eq] at valid
    exact valid.2.1
  have keyed : Sql.KeyedBy (fun item : CausalInputRevision => item.val.productId)
      a.val.causalInputRevisions :=
    fun _ listed _ listed' => List.inj_on_of_nodup_map unique listed listed'
  have sorted : Sql.orderBy (fun item : CausalInputRevision => item.val.productId)
      a.val.causalInputRevisions =
        Sql.orderBy (fun item : CausalInputRevision => item.val.productId)
          b.val.causalInputRevisions :=
    Sql.orderBy_eq_of_perm keyed ((Sql.orderBy_perm _ _).trans inputs.symm) (Sql.orderBy_sorted _ _)
  simp only [SourceRevisionClaimsFields.mk.injEq, true_and] at fields
  obtain ⟨snapshot, revision, restatement, batch, cut, run, methodology, policy, posture⟩ := fields
  apply Checked.ext
  simp only [SourceRevisionClaims.causalSorted, SourceRevisionClaimsFields.mk.injEq]
  exact ⟨snapshot, revision, restatement, batch, cut, run, methodology, policy, sorted, posture⟩

theorem SourceRef.Reordered.causalSorted {a b : SourceRef} (same : a.Reordered b) :
    a.causalSorted = b.causalSorted := by
  obtain ⟨fields, claims⟩ := same
  have mapped {own other : Option SourceRevisionClaims}
      (related : Option.Rel SourceRevisionClaims.Reordered own other) :
      own.map SourceRevisionClaims.causalSorted = other.map SourceRevisionClaims.causalSorted := by
    cases related with
    | none => rfl
    | some claims => exact congrArg some claims.causalSorted
  have sorted := mapped claims
  simp only [SourceRefFields.mk.injEq, and_true] at fields
  obtain ⟨product, system, version, route, day, time, content, quality, freshness⟩ := fields
  apply Checked.ext
  simp only [SourceRef.causalSorted, SourceRefFields.mk.injEq]
  exact ⟨product, system, version, route, day, time, content, quality, freshness, sorted⟩

theorem Rearranged.causalSorted {sourceRefs others : List SourceRef}
    (same : Rearranged sourceRefs others) :
    (sourceRefs.map SourceRef.causalSorted).Perm (others.map SourceRef.causalSorted) := by
  obtain ⟨middle, perm, reordered⟩ := same
  have sorted : middle.map SourceRef.causalSorted = others.map SourceRef.causalSorted := by
    clear perm
    induction reordered with
    | nil => rfl
    | cons first _ ih => rw [List.map_cons, List.map_cons, first.causalSorted, ih]
  rw [← sorted]
  exact perm.map _

section Rearranged
variable {sourceRefs others : List SourceRef}

theorem sourceCutPosture_rearranged (same : Rearranged sourceRefs others)
    (tolerance : Option SourceCutTolerance) :
    sourceCutPosture sourceRefs tolerance = sourceCutPosture others tolerance := by
  rw [← sourceCutPosture_causalSorted sourceRefs, ← sourceCutPosture_causalSorted others]
  exact sourceCutPosture_perm same.causalSorted tolerance

theorem sourceRevisionVectorDigest_rearranged [Sha256]
    (unique : (sourceRefs.map SourceRef.identity).Nodup) (same : Rearranged sourceRefs others) :
    sourceRevisionVectorDigest sourceRefs = sourceRevisionVectorDigest others := by
  rw [← sourceRevisionVectorDigest_causalSorted sourceRefs,
    ← sourceRevisionVectorDigest_causalSorted others]
  have distinct : ((sourceRefs.map SourceRef.causalSorted).map SourceRef.identity).Nodup := by
    rw [List.map_map]
    exact unique
  rw [sourceRevisionVectorDigest, sourceRevisionVectorDigest,
    sortedSources_perm distinct same.causalSorted]

end Rearranged

/-! ## What a digest tells -/

/-- The text of an entry determines it. -/
theorem sourceRevisionVectorEntry_eq {a b : SourceRef}
    (same : Json.dump (sourceRevisionVectorEntry a) = Json.dump (sourceRevisionVectorEntry b)) :
    sourceRevisionVectorEntry a = sourceRevisionVectorEntry b := by
  have values := Json.values_eq same (by simp) (by simp)
  simp only [List.map_cons, List.map_nil, List.cons.injEq, and_true] at values
  obtain ⟨day, claims, content, product, version, system⟩ := values
  have payloads : sourceRevisionClaimsPayload a.val.revisionClaims =
      sourceRevisionClaimsPayload b.val.revisionClaims := by
    rw [← sourceRevisionClaimsPayload_causalSorted a.val.revisionClaims,
      ← sourceRevisionClaimsPayload_causalSorted b.val.revisionClaims, claimsPayload_eq claims]
  simp only [sourceRevisionVectorEntry, Json.str_eq day, payloads, Json.str_eq content,
    Json.str_eq product, Json.str_eq version, Json.str_eq system]

theorem entries_of_vectorDigest [Sha256] (collisionFree : Sha256.CollisionFree 64)
    {sourceRefs others : List SourceRef}
    (same : sourceRevisionVectorDigest sourceRefs = sourceRevisionVectorDigest others) :
    (sourceRefs.map sourceRevisionVectorEntry).Perm (others.map sourceRevisionVectorEntry) := by
  have texts := Json.items_eq (digestText_eq collisionFree same)
  have entries : (sortedSources sourceRefs).map sourceRevisionVectorEntry =
      (sortedSources others).map sourceRevisionVectorEntry :=
    map_eq_of_told texts fun _ _ _ _ => sourceRevisionVectorEntry_eq
  have own : (sortedSources sourceRefs).Perm sourceRefs := List.perm_insertionSort _ _
  have other : (sortedSources others).Perm others := List.perm_insertionSort _ _
  have perm := (own.map sourceRevisionVectorEntry).symm
  rw [entries] at perm
  exact perm.trans (other.map _)

/-! ## Authoritative postures -/

/-- A causal input names this reference and no other, at the revision it has. -/
structure CausalSource (sourceRefs : List SourceRef) (input : CausalInputRevision)
    (source : SourceRef) : Prop where
  listed : source ∈ sourceRefs
  named : source.val.productId = input.val.productId
  only : ∀ other ∈ sourceRefs, other.val.productId = input.val.productId → other = source
  revision : ∃ own, source.val.revisionClaims = some own ∧
    own.val.sourceRevision = some input.val.sourceRevision ∧
    own.val.restatementVersion = input.val.restatementVersion

/-- The claims of a reference can be relied on. -/
def ReconciledClaims (claims : SourceRevisionClaims) : Prop :=
  claims.val.hasPrimaryRevisionIdentity = true ∧
    claims.val.reconciliationPosture ≠ .partialReconciliation ∧
    claims.val.reconciliationPosture ≠ .failed ∧ claims.val.reconciliationPosture ≠ .unknown

/-- Every reference carries claims that can be relied on, and their causal inputs are there. -/
structure CutPrepared (sourceRefs : List SourceRef) : Prop where
  claimed : ∀ r ∈ sourceRefs, ∃ claims, r.val.revisionClaims = some claims ∧ ReconciledClaims claims
  caused : ∀ r ∈ sourceRefs, ∀ claims, r.val.revisionClaims = some claims →
    ∀ input ∈ claims.val.causalInputRevisions, ∃ source, CausalSource sourceRefs input source

/-- The cut that the claims of a reference name. -/
def SourceRef.cutId (r : SourceRef) : Option String :=
  r.val.revisionClaims.bind fun claims => claims.val.sourceCutId

def SameDay (sourceRefs : List SourceRef) : Prop :=
  ∃ day, ∀ r ∈ sourceRefs, r.val.asOfDate = day

def SameCut (sourceRefs : List SourceRef) : Prop :=
  ∃ cut, ∀ r ∈ sourceRefs, r.cutId = some cut

def NoCut (sourceRefs : List SourceRef) : Prop :=
  ∀ r ∈ sourceRefs, r.cutId = none

/-- The sources are one, or of one cut, or on one day without a cut where their times do. -/
def CutJoined (sourceRefs : List SourceRef) (timely : Prop) : Prop :=
  sourceRefs.length = 1 ∨ SameDay sourceRefs ∧ (SameCut sourceRefs ∨ NoCut sourceRefs ∧ timely)

section Authoritative
variable {sourceRefs : List SourceRef}

theorem compareCausalClaim_agrees_iff (unique : sourceRefs.Nodup) (claim : CausalInputRevision) :
    compareCausalClaim sourceRefs claim = .agrees ↔
      ∃ source, CausalSource sourceRefs claim source := by
  have members (r : SourceRef) :
      r ∈ sourceRefs.filter (fun r => r.val.productId = claim.val.productId) ↔
        r ∈ sourceRefs ∧ r.val.productId = claim.val.productId := by
    rw [List.mem_filter, decide_eq_true_eq]
  have distinct := unique.filter fun r => decide (r.val.productId = claim.val.productId)
  simp only [compareCausalClaim]
  generalize sourceRefs.filter (fun r => decide (r.val.productId = claim.val.productId)) = named
    at members distinct
  rcases named with _ | ⟨source, _ | ⟨second, rest⟩⟩
  · refine iff_of_false CausalComparison.noConfusion ?_
    rintro ⟨source, causal⟩
    exact absurd ((members source).mpr ⟨causal.listed, causal.named⟩) List.not_mem_nil
  · obtain ⟨listed, named⟩ := (members source).mp List.mem_cons_self
    have only : ∀ other ∈ sourceRefs, other.val.productId = claim.val.productId →
        other = source := by
      intro other otherListed otherNamed
      exact List.mem_singleton.mp ((members other).mpr ⟨otherListed, otherNamed⟩)
    have told : (∃ found, CausalSource sourceRefs claim found) ↔
        ∃ own, source.val.revisionClaims = some own ∧
          own.val.sourceRevision = some claim.val.sourceRevision ∧
          own.val.restatementVersion = claim.val.restatementVersion := by
      constructor
      · rintro ⟨found, causal⟩
        rw [← only found causal.listed causal.named]
        exact causal.revision
      · intro revision
        exact ⟨source, listed, named, only, revision⟩
    rw [told]
    cases claims : source.val.revisionClaims with
    | none => simp [claims]
    | some own =>
        cases revision : own.val.sourceRevision with
        | none => simp [claims, revision]
        | some text =>
            simp only [claims, Option.some.injEq, exists_eq_left', revision]
            split_ifs with other same missing
            · exact iff_of_false not_false fun told => other told.1
            · exact iff_of_true rfl ⟨not_not.mp other, same⟩
            · exact iff_of_false not_false fun told => same told.2
            · exact iff_of_false not_false fun told => same told.2
  · refine iff_of_false CausalComparison.noConfusion ?_
    rintro ⟨found, causal⟩
    have first := (members source).mp List.mem_cons_self
    have next := (members second).mp (List.mem_cons_of_mem _ List.mem_cons_self)
    have same : source = second :=
      (causal.only source first.1 first.2).trans (causal.only second next.1 next.2).symm
    rw [same] at distinct
    exact (List.nodup_cons.mp distinct).1 List.mem_cons_self

theorem causalInputPosture_none_iff (unique : sourceRefs.Nodup) :
    causalInputPosture sourceRefs = none ↔
      ∀ r ∈ sourceRefs, ∀ claims, r.val.revisionClaims = some claims →
        ∀ input ∈ claims.val.causalInputRevisions,
          ∃ source, CausalSource sourceRefs input source := by
  have listed (claim : CausalInputRevision) :
      claim ∈ sourceRefs.flatMap (fun r =>
        r.val.revisionClaims.elim [] fun claims => claims.val.causalInputRevisions) ↔
      ∃ r ∈ sourceRefs, ∃ claims, r.val.revisionClaims = some claims ∧
        claim ∈ claims.val.causalInputRevisions := by
    rw [List.mem_flatMap]
    refine exists_congr fun r => and_congr_right fun _ => ?_
    cases r.val.revisionClaims <;> simp
  have compared : causalInputPosture sourceRefs = none ↔
      ∀ claim ∈ sourceRefs.flatMap (fun r =>
        r.val.revisionClaims.elim [] fun claims => claims.val.causalInputRevisions),
          compareCausalClaim sourceRefs claim = .agrees := by
    simp only [causalInputPosture, List.contains_eq_mem, decide_eq_true_eq]
    split_ifs with differs unavailable
    · refine iff_of_false not_false fun agrees => ?_
      obtain ⟨claim, member, found⟩ := List.mem_map.mp differs
      rw [agrees claim member] at found
      cases found
    · refine iff_of_false not_false fun agrees => ?_
      obtain ⟨claim, member, found⟩ := List.mem_map.mp unavailable
      rw [agrees claim member] at found
      cases found
    · refine iff_of_true rfl fun claim member => ?_
      cases found : compareCausalClaim sourceRefs claim with
      | agrees => rfl
      | unavailable => exact absurd (List.mem_map.mpr ⟨claim, member, found⟩) unavailable
      | differs => exact absurd (List.mem_map.mpr ⟨claim, member, found⟩) differs
  rw [compared]
  constructor
  · intro agrees r member claims own input among
    exact (compareCausalClaim_agrees_iff unique input).mp
      (agrees input ((listed input).mpr ⟨r, member, claims, own, among⟩))
  · intro caused claim member
    obtain ⟨r, own, claims, carried, among⟩ := (listed claim).mp member
    exact (compareCausalClaim_agrees_iff unique claim).mpr (caused r own claims carried claim among)

theorem length_dedup_eq_one {α : Type} [DecidableEq α] {values : List α} (some : values ≠ []) :
    values.dedup.length = 1 ↔ ∃ a, ∀ b ∈ values, b = a := by
  constructor
  · intro single
    obtain ⟨a, only⟩ := List.length_eq_one_iff.mp single
    refine ⟨a, fun b listed => ?_⟩
    have kept := List.mem_dedup.mpr listed
    rw [only] at kept
    exact List.mem_singleton.mp kept
  · rintro ⟨a, same⟩
    have alike : values = List.replicate values.length a := List.eq_replicate_iff.mpr ⟨rfl, same⟩
    have long : values.length ≠ 0 := by
      rwa [ne_eq, List.length_eq_zero_iff]
    rw [alike, List.replicate_dedup long, List.length_singleton]

/-- A text of valid claims is stated when it is there. -/
theorem stated_cutId (r : SourceRef) :
    SourceRevisionClaimsFields.stated r.cutId = r.cutId.isSome := by
  cases cut : r.cutId with
  | none => rfl
  | some text =>
      rw [SourceRef.cutId, Option.bind_eq_some_iff] at cut
      obtain ⟨claims, -, cut⟩ := cut
      have valid := claims.valid
      simp only [SourceRevisionClaimsFields.checks, firstFailure_append, cut,
        optionalNormalizedText, Option.elim_some, requireNormalizedText, firstFailure_cons,
        requireText] at valid
      have filled : text ≠ "" := by
        rintro rfl
        have blank : PyText.isBlank "" = true := by decide
        simp [blank] at valid
      simp [SourceRevisionClaimsFields.stated, filled]

theorem cutIds_eq (claimed : ∀ r ∈ sourceRefs, ∃ claims, r.val.revisionClaims = some claims ∧
    ReconciledClaims claims) :
    (sourceRefs.filterMap fun r => r.val.revisionClaims).map (fun item => item.val.sourceCutId) =
      sourceRefs.map SourceRef.cutId := by
  induction sourceRefs with
  | nil => rfl
  | cons r rest ih =>
      obtain ⟨claims, own, -⟩ := claimed r List.mem_cons_self
      have later := ih fun other member => claimed other (List.mem_cons_of_mem _ member)
      simp only [List.filterMap_cons, own, List.map_cons, later, SourceRef.cutId, Option.bind_some]

/-- What is left of the cascade once the claims are prepared. -/
def joinedPosture (sourceRefs : List SourceRef) (tolerance : Option SourceCutTolerance) :
    SourceCutPosture :=
  if sourceRefs.length = 1 then .coherent
  else if (sourceRefs.map fun r => r.val.asOfDate).dedup.length ≠ 1 then .mixed
  else if (sourceRefs.map SourceRef.cutId).all SourceRevisionClaimsFields.stated then
    if (sourceRefs.map SourceRef.cutId).dedup.length = 1 then .coherent else .mixed
  else if (sourceRefs.map SourceRef.cutId).any SourceRevisionClaimsFields.stated then .partialCut
  else
    match tolerance with
    | none => .unknown
    | some declared =>
        if declared.val.maximumGeneratedTimeSkewSeconds <
            totalSeconds (generatedTimeSkew sourceRefs) then .mixed
        else .coherentWithDeclaredTolerance

theorem joinedPosture_authoritative_iff (some : sourceRefs ≠ [])
    (tolerance : Option SourceCutTolerance) :
    sourceCutIsAuthoritative (joinedPosture sourceRefs tolerance) = true ↔
      CutJoined sourceRefs (∃ declared, tolerance = .some declared ∧
        totalSeconds (generatedTimeSkew sourceRefs) ≤
          declared.val.maximumGeneratedTimeSkewSeconds) := by
  have days : (sourceRefs.map fun r => r.val.asOfDate).dedup.length = 1 ↔ SameDay sourceRefs := by
    rw [length_dedup_eq_one (by rwa [ne_eq, List.map_eq_nil_iff])]
    simp only [List.forall_mem_map, SameDay]
  have allCut : (sourceRefs.map SourceRef.cutId).all SourceRevisionClaimsFields.stated = true ↔
      ∀ r ∈ sourceRefs, r.cutId.isSome = true := by
    simp only [List.all_map, List.all_eq_true, Function.comp_apply, stated_cutId]
  have anyCut : (sourceRefs.map SourceRef.cutId).any SourceRevisionClaimsFields.stated = true ↔
      ¬ NoCut sourceRefs := by
    simp only [List.any_map, List.any_eq_true, Function.comp_apply, stated_cutId, NoCut, not_forall,
      exists_prop, ← Option.isSome_iff_ne_none]
  have oneCut : (sourceRefs.map SourceRef.cutId).dedup.length = 1 ↔
      ∃ cut, ∀ r ∈ sourceRefs, r.cutId = cut := by
    rw [length_dedup_eq_one (by rwa [ne_eq, List.map_eq_nil_iff])]
    simp only [List.forall_mem_map]
  obtain ⟨r, listed⟩ := List.exists_mem_of_ne_nil _ some
  have someCut : SameCut sourceRefs → ∀ r ∈ sourceRefs, r.cutId.isSome = true := by
    rintro ⟨cut, same⟩ own member
    rw [same own member]
    rfl
  unfold joinedPosture CutJoined
  split_ifs with single day all one any
  · exact iff_of_true rfl (Or.inl single)
  · refine iff_of_false Bool.noConfusion ?_
    rintro (only | ⟨same, -⟩)
    · exact single only
    · exact day (days.mpr same)
  · refine iff_of_true rfl (Or.inr ⟨days.mp (not_not.mp day), Or.inl ?_⟩)
    obtain ⟨cut, same⟩ := oneCut.mp one
    obtain ⟨text, own⟩ := Option.isSome_iff_exists.mp (allCut.mp all r listed)
    exact ⟨text, fun other member => (same other member).trans ((same r listed).symm.trans own)⟩
  · refine iff_of_false Bool.noConfusion ?_
    rintro (only | ⟨-, ⟨cut, same⟩ | ⟨none, -⟩⟩)
    · exact single only
    · exact one (oneCut.mpr ⟨_, same⟩)
    · have own := allCut.mp all r listed
      rw [none r listed] at own
      cases own
  · refine iff_of_false Bool.noConfusion ?_
    rintro (only | ⟨-, same | ⟨none, -⟩⟩)
    · exact single only
    · exact all (allCut.mpr (someCut same))
    · exact anyCut.mp any none
  · have none : NoCut sourceRefs := not_not.mp (mt anyCut.mpr any)
    have apart : ¬ SameCut sourceRefs := fun same => all (allCut.mpr (someCut same))
    have day := days.mp (not_not.mp day)
    cases tolerance with
    | none => simp [sourceCutIsAuthoritative, single, apart]
    | some declared =>
        simp only [Option.some.injEq, exists_eq_left', single, day, apart, none, false_or,
          true_and]
        split_ifs with late
        · exact iff_of_false Bool.noConfusion (not_le.mpr late)
        · exact iff_of_true rfl (not_lt.mp late)

theorem mem_present {item : SourceRevisionClaims} :
    item ∈ sourceRefs.filterMap (fun r => r.val.revisionClaims) ↔
      ∃ r ∈ sourceRefs, r.val.revisionClaims = some item :=
  List.mem_filterMap

/-- A step of the cascade that leaves with a weak posture. -/
theorem authoritative_unless {leaves : Prop} [Decidable leaves] {weak posture : SourceCutPosture}
    (low : sourceCutIsAuthoritative weak = false) :
    sourceCutIsAuthoritative (if leaves then weak else posture) = true ↔
      ¬ leaves ∧ sourceCutIsAuthoritative posture = true := by
  by_cases left : leaves
  · rw [if_pos left, low]
    exact iff_of_false Bool.noConfusion fun kept => kept.1 left
  · rw [if_neg left, and_iff_right left]

/-- The cascade up to the causal inputs asks for prepared claims. -/
theorem sourceCutPosture_authoritative_iff (some : sourceRefs ≠ []) (unique : sourceRefs.Nodup)
    (tolerance : Option SourceCutTolerance) :
    sourceCutIsAuthoritative (sourceCutPosture sourceRefs tolerance) = true ↔
      CutPrepared sourceRefs ∧
        sourceCutIsAuthoritative (joinedPosture sourceRefs tolerance) = true := by
  have counted : (sourceRefs.filterMap fun r => r.val.revisionClaims).length =
      sourceRefs.length ↔ ∀ r ∈ sourceRefs, r.val.revisionClaims.isSome = true :=
    List.filterMap_length_eq_length
  have unmet (test : SourceRevisionClaims → Bool) :
      ¬ (sourceRefs.filterMap fun r => r.val.revisionClaims).any test = true ↔
        ∀ item ∈ sourceRefs.filterMap (fun r => r.val.revisionClaims), test item = false := by
    simp only [Bool.not_eq_true, List.any_eq_false]
  simp only [sourceCutPosture]
  rw [authoritative_unless rfl, authoritative_unless rfl, authoritative_unless rfl,
    authoritative_unless rfl, authoritative_unless rfl, authoritative_unless rfl, unmet, unmet,
    unmet, unmet, not_not]
  constructor
  · rintro ⟨-, complete, noPartial, noFailed, primary, noUnknown, rest⟩
    have claimed : ∀ r ∈ sourceRefs, ∃ claims, r.val.revisionClaims = .some claims ∧
        ReconciledClaims claims := by
      intro r listed
      obtain ⟨claims, own⟩ := Option.isSome_iff_exists.mp (counted.mp complete r listed)
      have present := mem_present.mpr ⟨r, listed, own⟩
      exact ⟨claims, own, by simpa using primary claims present,
        of_decide_eq_false (noPartial claims present),
        of_decide_eq_false (noFailed claims present), of_decide_eq_false (noUnknown claims present)⟩
    cases causal : causalInputPosture sourceRefs with
    | some posture =>
        rw [causal] at rest
        simp only [causalInputPosture] at causal
        split_ifs at causal <;> cases causal <;> cases rest
    | none =>
        rw [causal] at rest
        refine ⟨⟨claimed, (causalInputPosture_none_iff unique).mp causal⟩, ?_⟩
        unfold joinedPosture
        rw [← cutIds_eq claimed]
        exact rest
  · rintro ⟨prepared, joined⟩
    have complete : ∀ r ∈ sourceRefs, r.val.revisionClaims.isSome = true := by
      intro r listed
      obtain ⟨claims, own, -⟩ := prepared.claimed r listed
      rw [own]
      rfl
    have reconciled : ∀ item ∈ sourceRefs.filterMap (fun r => r.val.revisionClaims),
        ReconciledClaims item := by
      intro item present
      obtain ⟨r, listed, own⟩ := mem_present.mp present
      obtain ⟨claims, carried, good⟩ := prepared.claimed r listed
      rw [own, Option.some.injEq] at carried
      exact carried ▸ good
    have there : (sourceRefs.filterMap fun r => r.val.revisionClaims).isEmpty ≠ true := by
      rw [ne_eq, List.isEmpty_iff, ← List.length_eq_zero_iff, counted.mpr complete,
        List.length_eq_zero_iff]
      exact some
    refine ⟨there, counted.mpr complete,
      fun item present => decide_eq_false (reconciled item present).2.1,
      fun item present => decide_eq_false (reconciled item present).2.2.1,
      fun item present => by simp [(reconciled item present).1],
      fun item present => decide_eq_false (reconciled item present).2.2.2, ?_⟩
    rw [(causalInputPosture_none_iff unique).mpr prepared.caused]
    unfold joinedPosture at joined
    rw [← cutIds_eq prepared.claimed] at joined
    exact joined

end Authoritative

/-! ## Sound cuts -/

/-- No two references were generated further apart than declared. -/
def Within (sourceRefs : List SourceRef) (declared : SourceCutTolerance) : Prop :=
  ∀ a ∈ sourceRefs, ∀ b ∈ sourceRefs, a.val.generatedAtUtc.instant - b.val.generatedAtUtc.instant ≤
    declared.val.maximumGeneratedTimeSkewSeconds * 1000000

/-- The cut of the references is coherent, or so within the tolerance. -/
def CoherentCut (sourceRefs : List SourceRef) (tolerance : Option SourceCutTolerance) : Prop :=
  CutPrepared sourceRefs ∧
    CutJoined sourceRefs (∃ declared, tolerance = some declared ∧ Within sourceRefs declared)

/-- The posture and the digest do not see an order, the digest tells the entries, and
the posture is authoritative for coherent cuts. -/
structure CutSound [Sha256] (sourceRefs : List SourceRef)
    (tolerance : Option SourceCutTolerance) : Prop where
  posture : ∀ others, Rearranged sourceRefs others →
    sourceCutPosture sourceRefs tolerance = sourceCutPosture others tolerance
  digest : ∀ others, Rearranged sourceRefs others →
    sourceRevisionVectorDigest sourceRefs = sourceRevisionVectorDigest others
  entries : ∀ others, sourceRevisionVectorDigest sourceRefs = sourceRevisionVectorDigest others →
    (sourceRefs.map sourceRevisionVectorEntry).Perm (others.map sourceRevisionVectorEntry)
  coherent : sourceCutIsAuthoritative (sourceCutPosture sourceRefs tolerance) = true ↔
    CoherentCut sourceRefs tolerance

/-- The float of the skew is compared with the tolerance as the skew is. -/
def SkewTold (sourceRefs : List SourceRef) (tolerance : Option SourceCutTolerance) : Prop :=
  ∀ declared, tolerance = some declared →
    (totalSeconds (generatedTimeSkew sourceRefs) ≤
        declared.val.maximumGeneratedTimeSkewSeconds ↔ Within sourceRefs declared)

theorem within_iff {sourceRefs : List SourceRef} (some : sourceRefs ≠ [])
    (declared : SourceCutTolerance) :
    Within sourceRefs declared ↔ generatedTimeSkew sourceRefs ≤
      declared.val.maximumGeneratedTimeSkewSeconds * 1000000 :=
  (generatedTimeSkew_le_iff some _).symm

/-- A skew of less than 2 ^ 34 seconds, some 544 years, is told. -/
theorem skewTold_of_short {sourceRefs : List SourceRef} (some : sourceRefs ≠ [])
    (short : generatedTimeSkew sourceRefs < 2 ^ 34 * 1000000)
    (tolerance : Option SourceCutTolerance) : SkewTold sourceRefs tolerance := by
  intro declared _
  have valid := declared.valid
  simp only [SourceCutToleranceFields.checks, firstFailure_append, firstFailure_cons,
    decide_eq_false_iff_not, not_lt] at valid
  obtain ⟨seconds, limit⟩ := Int.eq_ofNat_of_zero_le valid.2.1
  have nonneg := generatedTimeSkew_nonneg sourceRefs
  rw [within_iff some, limit]
  by_cases fits : seconds < 2 ^ 53
  · have told := totalSeconds_le_iff nonneg short fits
    exact_mod_cast told
  · -- such a tolerance is longer than any short skew
    have least : totalSeconds (generatedTimeSkew sourceRefs) ≤ (2 ^ 34 : ℕ) :=
      (totalSeconds_le_iff nonneg short (by norm_num)).mpr (by push_cast; omega)
    have long : ((2 ^ 34 : ℕ) : ℚ) ≤ ((seconds : ℤ) : ℚ) := by
      have whole : 2 ^ 34 ≤ seconds := by omega
      exact_mod_cast whole
    exact iff_of_true (least.trans long) (by omega)

section
variable [Sha256]

theorem cut_sound_iff (collisionFree : Sha256.CollisionFree 64) {sourceRefs : List SourceRef}
    (some : sourceRefs ≠ []) (unique : (sourceRefs.map SourceRef.identity).Nodup)
    (tolerance : Option SourceCutTolerance) :
    CutSound sourceRefs tolerance ↔
      (CutPrepared sourceRefs → sourceRefs.length ≠ 1 → SameDay sourceRefs → NoCut sourceRefs →
        SkewTold sourceRefs tolerance) := by
  have authoritative := sourceCutPosture_authoritative_iff some unique.of_map tolerance
  rw [joinedPosture_authoritative_iff some] at authoritative
  constructor
  · intro sound prepared several sameDay noCut declared stated
    have apart : ¬ SameCut sourceRefs := by
      rintro ⟨cut, same⟩
      obtain ⟨r, listed⟩ := List.exists_mem_of_ne_nil _ some
      have own := same r listed
      rw [noCut r listed] at own
      cases own
    have both := authoritative.symm.trans sound.coherent
    subst stated
    simpa [CoherentCut, CutJoined, prepared, several, sameDay, noCut, apart] using both
  · intro told
    refine ⟨fun others same => sourceCutPosture_rearranged same tolerance,
      fun others same => sourceRevisionVectorDigest_rearranged unique same,
      fun others => entries_of_vectorDigest collisionFree, ?_⟩
    rw [authoritative]
    refine and_congr_right fun prepared => or_congr_right' fun several => ?_
    refine and_congr_right fun sameDay => or_congr_right ?_
    refine and_congr_right fun noCut => exists_congr fun declared => ?_
    exact and_congr_right fun stated => told prepared several sameDay noCut declared stated

end

/-! ## Samples -/

def sampleCutClaimsFields : SourceRevisionClaimsFields :=
  { snapshotId := some "snapshot-1", reconciliationPosture := .complete }

theorem sampleCutClaims_valid : firstFailure sampleCutClaimsFields.checks = none := by decide

def sampleCutClaims : SourceRevisionClaims := ⟨sampleCutClaimsFields, sampleCutClaims_valid⟩

/-- A source of a cut, generated at the given microsecond. -/
def sampleCutRef (productId : String) (instant : Int) : SourceRefFields where
  productId := productId
  sourceSystem := .lotusCore
  productVersion := "v1"
  route := "/portfolios/portfolio-1"
  asOfDate := ⟨20000⟩
  generatedAtUtc := .utc instant
  contentHash := "sha256:" ++ String.ofList (List.replicate 64 'a')
  dataQualityStatus := "complete"
  freshness := .current
  revisionClaims := some sampleCutClaims

/-- Two sources that were generated the given time after each other. -/
def sampleCut (skew : Int)
    (valid : firstFailure (sampleCutRef "prices" skew).checks = none) : List SourceRef :=
  [⟨sampleCutRef "holdings" 0, by decide +kernel⟩, ⟨sampleCutRef "prices" skew, valid⟩]

def sampleCutTolerance (seconds : Int)
    (valid : firstFailure (SourceCutToleranceFields.checks ⟨"cut-v1", seconds⟩) = none) :
    SourceCutTolerance :=
  ⟨⟨"cut-v1", seconds⟩, valid⟩

/-- Two sources generated 2 ^ 34 seconds and a microsecond after each other. -/
def sampleFarCut : List SourceRef := sampleCut (2 ^ 34 * 1000000 + 1) (by decide +kernel)

def sampleFarTolerance : SourceCutTolerance := sampleCutTolerance (2 ^ 34) (by decide +kernel)

/-- The microsecond is lost: the cut passes for coherent within its tolerance. -/
theorem cut_posture_overstated :
    (sampleFarCut.map SourceRef.identity).Nodup ∧
      sourceCutPosture sampleFarCut (some sampleFarTolerance) = .coherentWithDeclaredTolerance ∧
      ¬ CoherentCut sampleFarCut (some sampleFarTolerance) := by
  refine ⟨by decide +kernel, by decide +kernel, ?_⟩
  rintro ⟨-, single | ⟨-, ⟨cut, same⟩ | ⟨-, declared, stated, within⟩⟩⟩
  · cases single
  · cases same _ List.mem_cons_self
  · cases stated
    have far := within _ (List.mem_cons_of_mem _ List.mem_cons_self) _ List.mem_cons_self
    revert far
    decide +kernel

section Sample

local instance cutSha256 : Sha256 := Sha256.extended []

/-- Two sources generated ten seconds after each other, within a minute. -/
theorem cut_sound_iff_sample :
    CutSound (sampleCut 10000000 (by decide +kernel))
      (some (sampleCutTolerance 60 (by decide +kernel))) := by
  have collisionFree : Sha256.CollisionFree 64 :=
    @Sha256.extended_collisionFree [] 64 (le_refl 64) List.nodup_nil
  have short : generatedTimeSkew (sampleCut 10000000 (by decide +kernel)) < 2 ^ 34 * 1000000 := by
    decide +kernel
  exact (cut_sound_iff collisionFree (List.cons_ne_nil _ _) (by decide +kernel) _).mpr
    fun _ _ _ _ => skewTold_of_short (List.cons_ne_nil _ _) short _

end Sample

end LotusIdea

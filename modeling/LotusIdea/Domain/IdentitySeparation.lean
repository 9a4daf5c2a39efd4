import LotusIdea.Domain.OpportunityIdentity
import LotusIdea.Domain.SourceCuts
import Mathlib.Data.Multiset.Basic

/-!
# Meaning and evidence in an identity

The identifiers of a scoped opportunity are digests of its family, its kind and its
scope, and the material fingerprint looks at no source.  The evidence fingerprint tells
the sources; it does not see their order as long as sources that tie in the sort key
are told alike.
-/

set_option autoImplicit false

namespace LotusIdea

/-! ## Identifiers -/

/-- What follows the last separator. -/
theorem last_part_eq {α : Type} {separator : α} {first second own other : List α}
    (ownFree : separator ∉ own) (otherFree : separator ∉ other)
    (same : first ++ separator :: own = second ++ separator :: other) : own = other := by
  rcases List.append_eq_append_iff.mp same with ⟨middle, -, tail⟩ | ⟨middle, -, tail⟩
  · cases middle with
    | nil => exact (List.cons.inj tail).2
    | cons c middle =>
        have held : separator ∈ own := by
          rw [(List.cons.inj tail).2]
          exact List.mem_append_right _ List.mem_cons_self
        exact absurd held ownFree
  · cases middle with
    | nil => exact (List.cons.inj tail).2.symm
    | cons c middle =>
        have held : separator ∈ other := by
          rw [(List.cons.inj tail).2]
          exact List.mem_append_right _ List.mem_cons_self
        exact absurd held otherFree

theorem fingerprint_digest {a b : String} (same : sha256DigestStart ++ a = sha256DigestStart ++ b) :
    a = b := by
  have lists := congrArg String.toList same
  simp only [String.toList_append] at lists
  exact String.toList_inj.mp (List.append_cancel_left lists)

section Identity
variable [Sha256]

theorem canonicalDigest_dump {digits : Nat} (collisionFree : Sha256.CollisionFree digits)
    {a b : Json} (same : canonicalDigest digits a = canonicalDigest digits b) :
    Json.dump a = Json.dump b :=
  Json.dump_eq_of_dumps (collisionFree same)

theorem canonicalDigest_free (hex : Sha256.HexText) (digits : Nat) (payload : Json) :
    '_' ∉ (canonicalDigest digits payload).toList := by
  intro held
  have digit := List.all_eq_true.mp (hex digits payload.dumps) '_' held
  revert digit
  decide

/-- The identifiers of one kind of record are told by their digests. -/
theorem identifier_digest {digits : Nat} (hex : Sha256.HexText) {start kind otherKind : String}
    {a b : Json}
    (same : start ++ kind ++ "_" ++ canonicalDigest digits a =
      start ++ otherKind ++ "_" ++ canonicalDigest digits b) :
    canonicalDigest digits a = canonicalDigest digits b := by
  have lists := congrArg String.toList same
  have separator : "_".toList = ['_'] := rfl
  simp only [String.toList_append, separator] at lists
  rw [List.append_assoc _ ['_'], List.append_assoc _ ['_']] at lists
  exact String.toList_inj.mp
    (last_part_eq (canonicalDigest_free hex digits a) (canonicalDigest_free hex digits b) lists)

omit [Sha256] in
/-- The text of a business identity tells the family, the kind and the scope. -/
theorem businessIdentityPayload_eq {family otherFamily : OpportunityFamily} {kind otherKind : String}
    {scope otherScope : ReviewAccessScope} {asOfDate otherDate : Date}
    (same : Json.dump (businessIdentityPayload family kind (some scope) asOfDate) =
      Json.dump (businessIdentityPayload otherFamily otherKind (some otherScope) otherDate)) :
    family = otherFamily ∧ kind = otherKind ∧ scope = otherScope := by
  have values := Json.values_eq same rfl (by simp)
  simp only [List.map_cons, List.map_nil, List.cons.injEq, and_true] at values
  obtain ⟨families, kinds, scopes⟩ := values
  have fields := Json.values_eq scopes rfl (by simp)
  simp only [List.map_cons, List.map_nil, List.cons.injEq, and_true, true_and] at fields
  obtain ⟨tenant, book, portfolio, client⟩ := fields
  refine ⟨member_eq families, Json.str_eq kinds, ?_⟩
  obtain ⟨⟨tenantId, bookId, portfolioId, clientId⟩, _⟩ := scope
  obtain ⟨⟨otherTenant, otherBook, otherPortfolio, otherClient⟩, _⟩ := otherScope
  cases Json.str_eq tenant
  cases Json.str_eq book
  cases Json.str_eq portfolio
  cases Json.str_eq client
  rfl

/-! ## What is built -/

section Built
variable {family : OpportunityFamily} {opportunityKind : String} {asOfDate : Date}
  {accessScope : Option ReviewAccessScope} {materialFacts : MaterialFacts}
  {sourceRefs : List SourceRef} {identity : OpportunityIdentity}

/-- The digest of the material facts, and that of the evidence. -/
def materialDigest (family : OpportunityFamily) (opportunityKind : String) (asOfDate : Date)
    (accessScope : Option ReviewAccessScope) (materialFacts : MaterialFacts) : String :=
  canonicalDigest 64 (materialIdentityPayload (canonicalDigest 64 (businessIdentityPayload family
    (PyText.strip opportunityKind) accessScope asOfDate)) materialFacts)

def evidenceDigest (family : OpportunityFamily) (opportunityKind : String) (asOfDate : Date)
    (accessScope : Option ReviewAccessScope) (materialFacts : MaterialFacts)
    (sourceRefs : List SourceRef) : String :=
  canonicalDigest 64 (evidenceIdentityPayload (canonicalDigest 64 (businessIdentityPayload family
    (PyText.strip opportunityKind) accessScope asOfDate))
    (materialDigest family opportunityKind asOfDate accessScope materialFacts) sourceRefs)

/-- The parts of an identity that was built. -/
structure BuiltFrom (family : OpportunityFamily) (opportunityKind : String) (asOfDate : Date)
    (accessScope : Option ReviewAccessScope) (materialFacts : MaterialFacts)
    (sourceRefs : List SourceRef) (identity : OpportunityIdentity) : Prop where
  business : identity.businessIdentityId = "opportunity_" ++
    identifierKind (PyText.strip opportunityKind) ++ "_" ++ canonicalDigest 24
      (businessIdentityPayload family (PyText.strip opportunityKind) accessScope asOfDate)
  candidate : identity.candidateId = "idea_" ++
    identifierKind (PyText.strip opportunityKind) ++ "_" ++ canonicalDigest 16
      (businessIdentityPayload family (PyText.strip opportunityKind) accessScope asOfDate)
  material : identity.materialFingerprint = sha256DigestStart ++
    materialDigest family opportunityKind asOfDate accessScope materialFacts
  evidence : identity.evidenceFingerprint = sha256DigestStart ++
    evidenceDigest family opportunityKind asOfDate accessScope materialFacts sourceRefs

theorem builtFrom (built : buildOpportunityIdentity family opportunityKind asOfDate accessScope
      materialFacts sourceRefs = .ok identity) :
    BuiltFrom family opportunityKind asOfDate accessScope materialFacts sourceRefs identity := by
  simp only [buildOpportunityIdentity] at built
  obtain ⟨_, _, result⟩ := Except.seq_returns.mp built
  cases result
  exact ⟨rfl, rfl, rfl, rfl⟩

/-- An identity is built from any references, as long as there are some. -/
theorem built_of_sources (built : buildOpportunityIdentity family opportunityKind asOfDate
      accessScope materialFacts sourceRefs = .ok identity) {others : List SourceRef}
    (sameEmpty : others.isEmpty = sourceRefs.isEmpty) :
    ∃ other, buildOpportunityIdentity family opportunityKind asOfDate accessScope materialFacts
      others = .ok other := by
  simp only [buildOpportunityIdentity] at built ⊢
  obtain ⟨_, passed, _⟩ := Except.seq_returns.mp built
  rw [← sameEmpty] at passed
  exact ⟨_, Except.seq_returns.mpr ⟨_, passed, rfl⟩⟩

end Built

/-! ## Evidence -/

omit [Sha256] in
/-- The text of a source determines what it is told by. -/
theorem sourceRefIdentityPayload_eq {a b : SourceRef}
    (same : Json.dump (sourceRefIdentityPayload a) = Json.dump (sourceRefIdentityPayload b)) :
    sourceRefIdentityPayload a = sourceRefIdentityPayload b := by
  have values := Json.values_eq same (by simp) (by simp)
  simp only [List.map_cons, List.map_nil, List.cons.injEq, and_true] at values
  obtain ⟨system, product, version, route, day, time, content, quality, freshness, claims⟩ := values
  have payloads : sourceRevisionClaimsPayload a.val.revisionClaims =
      sourceRevisionClaimsPayload b.val.revisionClaims := by
    rw [← sourceRevisionClaimsPayload_causalSorted a.val.revisionClaims,
      ← sourceRevisionClaimsPayload_causalSorted b.val.revisionClaims, claimsPayload_eq claims]
  simp only [sourceRefIdentityPayload, Json.str_eq system, Json.str_eq product,
    Json.str_eq version, Json.str_eq route, Json.str_eq day, Json.str_eq time,
    Json.str_eq content, Json.str_eq quality, Json.str_eq freshness, payloads]

omit [Sha256] in
theorem sortedRefs_perm (sourceRefs : List SourceRef) : (sortedRefs sourceRefs).Perm sourceRefs :=
  Sql.orderBy_perm sourceRefSortKey sourceRefs

section Evidence
variable {family : OpportunityFamily} {opportunityKind : String} {asOfDate : Date}
  {accessScope : Option ReviewAccessScope} {materialFacts : MaterialFacts}
  {sourceRefs others : List SourceRef}

/-- The digest of the evidence tells the sorted sources. -/
theorem evidenceDigest_eq_iff (collisionFree : Sha256.CollisionFree 64) :
    evidenceDigest family opportunityKind asOfDate accessScope materialFacts sourceRefs =
      evidenceDigest family opportunityKind asOfDate accessScope materialFacts others ↔
      (sortedRefs sourceRefs).map sourceRefIdentityPayload =
        (sortedRefs others).map sourceRefIdentityPayload := by
  constructor
  · intro same
    have values := Json.values_eq (canonicalDigest_dump collisionFree same) rfl (by simp)
    simp only [List.map_cons, List.map_nil, List.cons.injEq, and_true, true_and] at values
    exact map_eq_of_told (Json.items_eq values) fun _ _ _ _ => sourceRefIdentityPayload_eq
  · intro same
    simp only [evidenceDigest, evidenceIdentityPayload, same]

/-- Sources that tie in the sort key are told alike. -/
def TiesAlike (sourceRefs : List SourceRef) : Prop :=
  ∀ a ∈ sourceRefs, ∀ b ∈ sourceRefs, sourceRefSortKey a = sourceRefSortKey b →
    sourceRefIdentityPayload a = sourceRefIdentityPayload b

omit [Sha256] in
theorem payloads_of_perm (alike : TiesAlike sourceRefs) (perm : others.Perm sourceRefs) :
    (sortedRefs others).map sourceRefIdentityPayload =
      (sortedRefs sourceRefs).map sourceRefIdentityPayload := by
  -- the sort key goes with what is told
  have keyed : Sql.KeyedBy Prod.fst
      (sourceRefs.map fun r => (sourceRefSortKey r, sourceRefIdentityPayload r)) := by
    intro x first y second same
    obtain ⟨a, listed, rfl⟩ := List.mem_map.mp first
    obtain ⟨b, listed', rfl⟩ := List.mem_map.mp second
    exact Prod.ext same (alike a listed b listed' same)
  have sorted (refs : List SourceRef) :
      Sql.orderBy Prod.fst (refs.map fun r => (sourceRefSortKey r, sourceRefIdentityPayload r)) =
        (sortedRefs refs).map fun r => (sourceRefSortKey r, sourceRefIdentityPayload r) :=
    Sql.orderBy_map _ _ refs
  have both : Sql.orderBy Prod.fst
      (sourceRefs.map fun r => (sourceRefSortKey r, sourceRefIdentityPayload r)) =
        Sql.orderBy Prod.fst
          (others.map fun r => (sourceRefSortKey r, sourceRefIdentityPayload r)) :=
    Sql.orderBy_eq_of_perm keyed ((Sql.orderBy_perm _ _).trans (perm.map _))
      (Sql.orderBy_sorted _ _)
  rw [sorted, sorted] at both
  have told := congrArg (List.map Prod.snd) both
  rw [List.map_map, List.map_map] at told
  exact told.symm

omit [Sha256] in
/-- Where every order tells the same, so do sources that tie. -/
theorem tiesAlike_of_perm (told : ∀ others, others.Perm sourceRefs →
      (sortedRefs others).map sourceRefIdentityPayload =
        (sortedRefs sourceRefs).map sourceRefIdentityPayload) : TiesAlike sourceRefs := by
  intro a listed b listed' tie
  by_cases same : a = b
  · rw [same]
  obtain ⟨rest, front⟩ : ∃ rest, sourceRefs.Perm (a :: b :: rest) := by
    obtain ⟨before, after, whole⟩ := List.append_of_mem listed
    have further : b ∈ before ++ after := by
      rw [whole, List.mem_append, List.mem_cons] at listed'
      rw [List.mem_append]
      tauto
    obtain ⟨start, tail, others⟩ := List.append_of_mem further
    refine ⟨start ++ tail, ?_⟩
    rw [whole]
    refine List.perm_middle.trans (List.Perm.cons a ?_)
    rw [others]
    exact List.perm_middle
  have turned := front.trans (List.Perm.swap b a _)
  obtain ⟨before, after, one, other⟩ := Sql.orderBy_tie tie rest
  have both := (told _ front.symm).trans (told _ turned.symm).symm
  change (Sql.orderBy sourceRefSortKey _).map _ = (Sql.orderBy sourceRefSortKey _).map _ at both
  rw [one, other, List.map_append, List.map_append, List.map_cons, List.map_cons] at both
  exact (List.cons.inj (List.append_cancel_left both)).1

end Evidence

/-! ## Changes of a source -/

/-- Another revision, quality or freshness. -/
def RefChanged (r changed : SourceRef) : Prop :=
  r.val.contentHash ≠ changed.val.contentHash ∨
    r.val.dataQualityStatus ≠ changed.val.dataQualityStatus ∨
    r.val.freshness ≠ changed.val.freshness ∨
    ¬ Option.Rel SourceRevisionClaims.Reordered r.val.revisionClaims changed.val.revisionClaims

omit [Sha256] in
theorem reordered_of_causalSorted {a b : SourceRevisionClaims}
    (same : a.causalSorted = b.causalSorted) : a.Reordered b := by
  have fields := congrArg Checked.val same
  simp only [SourceRevisionClaims.causalSorted, SourceRevisionClaimsFields.mk.injEq] at fields
  obtain ⟨snapshot, revision, restatement, batch, cut, run, methodology, policy, inputs, posture⟩ :=
    fields
  refine ⟨?_, ?_⟩
  · simp only [snapshot, revision, restatement, batch, cut, run, methodology, policy, posture]
  · have own := a.causalSorted_perm.symm
    rw [same] at own
    exact own.trans b.causalSorted_perm

omit [Sha256] in
theorem related_of_causalSorted {own other : Option SourceRevisionClaims}
    (same : own.map SourceRevisionClaims.causalSorted =
      other.map SourceRevisionClaims.causalSorted) :
    Option.Rel SourceRevisionClaims.Reordered own other := by
  cases own with
  | none =>
      cases other with
      | none => exact .none
      | some claims => cases same
  | some claims =>
      cases other with
      | none => cases same
      | some others => exact .some (reordered_of_causalSorted (Option.some.inj same))

omit [Sha256] in
theorem told_of_changed {r changed : SourceRef} (change : RefChanged r changed) :
    sourceRefIdentityPayload r ≠ sourceRefIdentityPayload changed := by
  intro same
  have values := Json.values_eq (congrArg Json.dump same) (by simp) (by simp)
  simp only [List.map_cons, List.map_nil, List.cons.injEq, and_true] at values
  obtain ⟨_, _, _, _, _, _, content, quality, freshness, claims⟩ := values
  rcases change with other | other | other | other
  · exact other (Json.str_eq content)
  · exact other (Json.str_eq quality)
  · exact other (member_eq freshness)
  · exact other (related_of_causalSorted (claimsPayload_eq claims))

/-! ## Separation -/

/-- The identifiers follow family, kind and scope, the material fingerprint no source,
and the evidence fingerprint the sources, in whatever order. -/
structure IdentitySeparates (family : OpportunityFamily) (opportunityKind : String)
    (asOfDate : Date) (scope : ReviewAccessScope) (materialFacts : MaterialFacts)
    (sourceRefs : List SourceRef) (identity : OpportunityIdentity) : Prop where
  business : ∀ otherFamily otherKind otherDate otherScope otherFacts otherRefs other,
    buildOpportunityIdentity otherFamily otherKind otherDate (some otherScope) otherFacts
        otherRefs = .ok other →
      (identity.businessIdentityId = other.businessIdentityId ↔
        family = otherFamily ∧ PyText.strip opportunityKind = PyText.strip otherKind ∧
          scope = otherScope) ∧
      (identity.candidateId = other.candidateId ↔
        family = otherFamily ∧ PyText.strip opportunityKind = PyText.strip otherKind ∧
          scope = otherScope)
  material : ∀ others other,
    buildOpportunityIdentity family opportunityKind asOfDate (some scope) materialFacts others =
        .ok other →
      identity.materialFingerprint = other.materialFingerprint
  order : ∀ others, others.Perm sourceRefs → ∃ other,
    buildOpportunityIdentity family opportunityKind asOfDate (some scope) materialFacts others =
        .ok other ∧
      identity.evidenceFingerprint = other.evidenceFingerprint
  changes : ∀ before r changed after other, sourceRefs = before ++ r :: after →
    RefChanged r changed →
    buildOpportunityIdentity family opportunityKind asOfDate (some scope) materialFacts
        (before ++ changed :: after) = .ok other →
      identity.evidenceFingerprint ≠ other.evidenceFingerprint

section Separation
variable {family : OpportunityFamily} {opportunityKind : String} {asOfDate : Date}
  {scope : ReviewAccessScope} {materialFacts : MaterialFacts} {sourceRefs : List SourceRef}
  {identity : OpportunityIdentity}

/-- Of two digests of business identities, cut to one width. -/
theorem businessDigest_eq_iff {digits : Nat} (collisionFree : Sha256.CollisionFree digits)
    (hex : Sha256.HexText) (start : String) {otherFamily : OpportunityFamily} {kind otherKind : String}
    {otherScope : ReviewAccessScope} {otherDate : Date} :
    start ++ identifierKind kind ++ "_" ++ canonicalDigest digits
        (businessIdentityPayload family kind (some scope) asOfDate) =
      start ++ identifierKind otherKind ++ "_" ++ canonicalDigest digits
        (businessIdentityPayload otherFamily otherKind (some otherScope) otherDate) ↔
      family = otherFamily ∧ kind = otherKind ∧ scope = otherScope := by
  constructor
  · intro same
    exact businessIdentityPayload_eq
      (canonicalDigest_dump collisionFree (identifier_digest hex same))
  · rintro ⟨rfl, rfl, rfl⟩
    rfl

theorem evidenceFingerprint_eq_iff (collisionFree : Sha256.CollisionFree 64)
    (built : buildOpportunityIdentity family opportunityKind asOfDate (some scope) materialFacts
      sourceRefs = .ok identity) {others : List SourceRef} {other : OpportunityIdentity}
    (otherBuilt : buildOpportunityIdentity family opportunityKind asOfDate (some scope)
      materialFacts others = .ok other) :
    identity.evidenceFingerprint = other.evidenceFingerprint ↔
      (sortedRefs sourceRefs).map sourceRefIdentityPayload =
        (sortedRefs others).map sourceRefIdentityPayload := by
  rw [(builtFrom built).evidence, (builtFrom otherBuilt).evidence,
    ← evidenceDigest_eq_iff collisionFree]
  exact ⟨fingerprint_digest, congrArg _⟩

/-- The sources that an evidence fingerprint was made from, up to their order. -/
theorem payloads_of_fingerprint (collisionFree : Sha256.CollisionFree 64)
    (built : buildOpportunityIdentity family opportunityKind asOfDate (some scope) materialFacts
      sourceRefs = .ok identity) {others : List SourceRef} {other : OpportunityIdentity}
    (otherBuilt : buildOpportunityIdentity family opportunityKind asOfDate (some scope)
      materialFacts others = .ok other)
    (same : identity.evidenceFingerprint = other.evidenceFingerprint) :
    (sourceRefs.map sourceRefIdentityPayload).Perm (others.map sourceRefIdentityPayload) := by
  have sorted := (evidenceFingerprint_eq_iff collisionFree built otherBuilt).mp same
  have own := ((sortedRefs_perm sourceRefs).map sourceRefIdentityPayload).symm
  rw [sorted] at own
  exact own.trans ((sortedRefs_perm others).map _)

theorem identity_separates_iff (collisionFree : ∀ digits ∈ [16, 24, 64],
      Sha256.CollisionFree digits) (hex : Sha256.HexText)
    (built : buildOpportunityIdentity family opportunityKind asOfDate (some scope) materialFacts
      sourceRefs = .ok identity) :
    IdentitySeparates family opportunityKind asOfDate scope materialFacts sourceRefs identity ↔
      TiesAlike sourceRefs := by
  have free64 := collisionFree 64 (by decide)
  constructor
  · intro separates
    refine tiesAlike_of_perm fun others perm => ?_
    obtain ⟨other, otherBuilt, same⟩ := separates.order others perm
    exact ((evidenceFingerprint_eq_iff free64 built otherBuilt).mp same).symm
  · intro alike
    refine ⟨?_, ?_, ?_, ?_⟩
    · intro otherFamily otherKind otherDate otherScope otherFacts otherRefs other otherBuilt
      rw [(builtFrom built).business, (builtFrom otherBuilt).business,
        (builtFrom built).candidate, (builtFrom otherBuilt).candidate]
      exact ⟨businessDigest_eq_iff (collisionFree 24 (by decide)) hex _,
        businessDigest_eq_iff (collisionFree 16 (by decide)) hex _⟩
    · intro others other otherBuilt
      rw [(builtFrom built).material, (builtFrom otherBuilt).material]
    · intro others perm
      obtain ⟨other, otherBuilt⟩ := built_of_sources built perm.isEmpty_eq
      refine ⟨other, otherBuilt, ?_⟩
      rw [evidenceFingerprint_eq_iff free64 built otherBuilt, payloads_of_perm alike perm]
    · intro before r changed after other whole change otherBuilt same
      have told := payloads_of_fingerprint free64 built otherBuilt same
      rw [whole, List.map_append, List.map_append, List.map_cons, List.map_cons,
        List.perm_append_left_iff] at told
      have bags := Multiset.coe_eq_coe.mpr told
      rw [← Multiset.cons_coe, ← Multiset.cons_coe, Multiset.cons_inj_left] at bags
      exact told_of_changed change bags

end Separation

end Identity

/-! ## Samples -/

section Sample

local instance separationSha256 : Sha256 := Sha256.extended []

/-- A source as its owner graded it. -/
def sampleGradedRef (dataQualityStatus : String)
    (valid : firstFailure (SourceRefFields.checks
      { sampleCutRef "holdings" 0 with dataQualityStatus := dataQualityStatus }) = none) :
    SourceRef :=
  ⟨{ sampleCutRef "holdings" 0 with dataQualityStatus := dataQualityStatus }, valid⟩

def sampleComplete : SourceRef := sampleGradedRef "complete" (by decide +kernel)

def sampleDegraded : SourceRef := sampleGradedRef "degraded" (by decide +kernel)

def sampleReviewScopeFields : ReviewAccessScopeFields :=
  { tenantId := "tenant-a", bookId := "book-1", portfolioId := "portfolio-1"
    clientId := "client-1" }

theorem sampleReviewScope_valid : firstFailure sampleReviewScopeFields.checks = none := by
  decide +kernel

def sampleReviewScope : ReviewAccessScope := ⟨sampleReviewScopeFields, sampleReviewScope_valid⟩

/-- An identity over the given sources. -/
def sampleOpportunity (sourceRefs : List SourceRef) : Except PyError OpportunityIdentity :=
  buildOpportunityIdentity .highCash "high-cash" ⟨20000⟩ (some sampleReviewScope)
    [("cash_weight", .text "0.3")] sourceRefs

theorem sampleOpportunity_built (sourceRefs : List SourceRef) (some : sourceRefs.isEmpty = false) :
    ∃ identity, sampleOpportunity sourceRefs = .ok identity := by
  simp only [sampleOpportunity, buildOpportunityIdentity]
  refine ⟨_, Except.seq_returns.mpr ⟨(), validate_eq_ok.mpr ?_, rfl⟩⟩
  rw [some]
  decide +kernel

/-- The same two sources, graded apart, have two evidence fingerprints. -/
theorem evidence_fingerprint_ordered : ∃ first second,
    sampleOpportunity [sampleComplete, sampleDegraded] = .ok first ∧
    sampleOpportunity [sampleDegraded, sampleComplete] = .ok second ∧
    first.evidenceFingerprint ≠ second.evidenceFingerprint := by
  obtain ⟨first, built⟩ :=
    sampleOpportunity_built [sampleComplete, sampleDegraded] rfl
  obtain ⟨second, otherBuilt⟩ :=
    sampleOpportunity_built [sampleDegraded, sampleComplete] rfl
  refine ⟨first, second, built, otherBuilt, fun same => ?_⟩
  have free : Sha256.CollisionFree 64 :=
    @Sha256.extended_collisionFree [] 64 (le_refl 64) List.nodup_nil
  have told := (evidenceFingerprint_eq_iff free built otherBuilt).mp same
  have graded := map_eq_of_told told fun a _ b _ payload =>
    show a.val.dataQualityStatus = b.val.dataQualityStatus from
      not_not.mp fun other => told_of_changed (Or.inr (Or.inl other)) payload
  revert graded
  decide +kernel

/-- An identity over one source. -/
theorem identity_separates_iff_sample : ∃ identity,
    IdentitySeparates .highCash "high-cash" ⟨20000⟩ sampleReviewScope
      [("cash_weight", .text "0.3")] [sampleComplete] identity := by
  obtain ⟨identity, built⟩ := sampleOpportunity_built [sampleComplete] rfl
  have free : ∀ digits ∈ [16, 24, 64], Sha256.CollisionFree digits := by
    intro digits listed
    have short : digits ≤ 64 := by
      simp only [List.mem_cons, List.not_mem_nil, or_false] at listed
      omega
    exact @Sha256.extended_collisionFree [] digits short List.nodup_nil
  have hex : Sha256.HexText := @Sha256.extended_hexText [] (by simp)
  refine ⟨identity, (identity_separates_iff free hex built).mpr ?_⟩
  intro a listed b listed' _
  rw [List.mem_singleton.mp listed, List.mem_singleton.mp listed']

end Sample

end LotusIdea

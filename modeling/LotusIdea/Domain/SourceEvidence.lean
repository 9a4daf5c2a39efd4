import LotusIdea.Domain.Enumerations
import LotusIdea.Domain.Ideas
import LotusIdea.Foundation.JsonText
import LotusIdea.Foundation.OrderedRows

/-!
# What an evidence hash tells of its sources

The hash of `evidence_hashing.py` is a digest of the canonical text of the sources,
sorted by their identities, with the causal inputs of every claim sorted by their
products.  It therefore tells the sources apart up to these two orders, and no further.
-/

set_option autoImplicit false

namespace LotusIdea

/-! ## The order of the causal inputs -/

/-- The claims with their causal inputs in the order of the products. -/
def SourceRevisionClaims.causalSorted (claims : SourceRevisionClaims) : SourceRevisionClaims where
  val :=
    { claims.val with
      causalInputRevisions := claims.val.causalInputRevisions.insertionSort fun a b =>
        a.val.productId ≤ b.val.productId }
  valid := by
    have passed := claims.valid
    have sorted := List.perm_insertionSort
      (fun a b : CausalInputRevision => a.val.productId ≤ b.val.productId)
      claims.val.causalInputRevisions
    have products := sorted.map fun entry => entry.val.productId
    simpa [SourceRevisionClaimsFields.checks, SourceRevisionClaimsFields.hasRevisionIdentity,
      products.nodup_iff, sorted.isEmpty_eq] using passed

def SourceRef.causalSorted (r : SourceRef) : SourceRef where
  val := { r.val with revisionClaims := r.val.revisionClaims.map SourceRevisionClaims.causalSorted }
  valid := by
    have passed := r.valid
    simpa [SourceRefFields.checks] using passed

theorem SourceRevisionClaims.causalSorted_perm (claims : SourceRevisionClaims) :
    claims.causalSorted.val.causalInputRevisions.Perm claims.val.causalInputRevisions :=
  List.perm_insertionSort _ _

theorem sourceRevisionClaimsPayload_causalSorted (claims : Option SourceRevisionClaims) :
    sourceRevisionClaimsPayload (claims.map SourceRevisionClaims.causalSorted) =
      sourceRevisionClaimsPayload claims := by
  cases claims with
  | none => rfl
  | some claims =>
      have sorted := List.pairwise_insertionSort
        (fun a b : CausalInputRevision => a.val.productId ≤ b.val.productId)
        claims.val.causalInputRevisions
      simp only [sourceRevisionClaimsPayload, Option.map_some, SourceRevisionClaims.causalSorted,
        sorted.insertionSort_eq]

section
variable (sourceRefs : List SourceRef)

theorem sourceRevisionVectorDigest_causalSorted [Sha256] :
    sourceRevisionVectorDigest (sourceRefs.map SourceRef.causalSorted) =
      sourceRevisionVectorDigest sourceRefs := by
  have entries : sourceRevisionVectorEntry ∘ SourceRef.causalSorted =
      sourceRevisionVectorEntry := by
    funext r
    simp only [Function.comp_apply, sourceRevisionVectorEntry, SourceRef.causalSorted,
      sourceRevisionClaimsPayload_causalSorted]
  have sources : sortedSources (sourceRefs.map SourceRef.causalSorted) =
      (sortedSources sourceRefs).map SourceRef.causalSorted :=
    insertionSort_map SourceRef.causalSorted sourceBefore (fun _ _ => rfl) sourceRefs
  simp only [sourceRevisionVectorDigest, sources, List.map_map, entries]

theorem compareCausalClaim_causalSorted (claim : CausalInputRevision) :
    compareCausalClaim (sourceRefs.map SourceRef.causalSorted) claim =
      compareCausalClaim sourceRefs claim := by
  have named : (sourceRefs.map SourceRef.causalSorted).filter
        (fun r => r.val.productId = claim.val.productId) =
      (sourceRefs.filter fun r => r.val.productId = claim.val.productId).map
        SourceRef.causalSorted := by
    rw [List.filter_map]
    rfl
  simp only [compareCausalClaim, named]
  cases sourceRefs.filter fun r => decide (r.val.productId = claim.val.productId) with
  | nil => rfl
  | cons source rest =>
      cases rest with
      | nil =>
          cases claims : source.val.revisionClaims <;>
            simp [SourceRef.causalSorted, claims, SourceRevisionClaims.causalSorted]
      | cons => rfl

/-- The causal claims are compared one by one, whatever their order. -/
theorem causalInputPosture_causalSorted :
    causalInputPosture (sourceRefs.map SourceRef.causalSorted) = causalInputPosture sourceRefs := by
  have compared : compareCausalClaim (sourceRefs.map SourceRef.causalSorted) =
      compareCausalClaim sourceRefs := funext (compareCausalClaim_causalSorted sourceRefs)
  have claims : ((sourceRefs.map SourceRef.causalSorted).flatMap fun r =>
        r.val.revisionClaims.elim [] fun claims => claims.val.causalInputRevisions).Perm
      (sourceRefs.flatMap fun r =>
        r.val.revisionClaims.elim [] fun claims => claims.val.causalInputRevisions) := by
    rw [List.flatMap_map]
    refine List.Perm.flatMap_left _ fun r _ => ?_
    cases own : r.val.revisionClaims with
    | none => simp [SourceRef.causalSorted, own]
    | some claims => simpa [SourceRef.causalSorted, own] using claims.causalSorted_perm
  have members (comparison : CausalComparison) :=
    (claims.map (compareCausalClaim sourceRefs)).mem_iff (a := comparison)
  simp only [causalInputPosture, compared, List.contains_eq_mem, members]

theorem sourceCutPosture_causalSorted (tolerance : Option SourceCutTolerance) :
    sourceCutPosture (sourceRefs.map SourceRef.causalSorted) tolerance =
      sourceCutPosture sourceRefs tolerance := by
  have present : (sourceRefs.map SourceRef.causalSorted).filterMap (fun r => r.val.revisionClaims) =
      (sourceRefs.filterMap fun r => r.val.revisionClaims).map
        SourceRevisionClaims.causalSorted := by
    rw [List.filterMap_map, List.map_filterMap]
    rfl
  have alike (read : SourceRevisionClaims → Bool) (kept : ∀ claims, read claims.causalSorted =
      read claims) (claims : List SourceRevisionClaims) :
      (claims.map SourceRevisionClaims.causalSorted).any read = claims.any read := by
    rw [List.any_map]
    exact congrArg claims.any (funext kept)
  simp only [sourceCutPosture, present, causalInputPosture_causalSorted, generatedTimeSkew,
    List.isEmpty_map, List.length_map, List.map_map,
    alike (fun item => item.val.reconciliationPosture = .partialReconciliation) fun _ => rfl,
    alike (fun item => item.val.reconciliationPosture = .failed) fun _ => rfl,
    alike (fun item => !item.val.hasPrimaryRevisionIdentity) fun _ => rfl,
    alike (fun item => item.val.reconciliationPosture = .unknown) fun _ => rfl]
  rfl

end


/-! ## Evidence -/

/-- What is stated of a source reference: its identity, its day, its content, the
claims of its owner and its posture.  The route and the time of generation are no part
of it. -/
structure SourceEvidence where
  sourceSystem : SourceSystem
  productId : String
  productVersion : String
  asOfDate : Date
  contentHash : String
  revisionClaims : Option SourceRevisionClaims
  dataQualityStatus : String
  freshness : EvidenceFreshness
  deriving DecidableEq

def SourceRef.evidence (r : SourceRef) : SourceEvidence where
  sourceSystem := r.val.sourceSystem
  productId := r.val.productId
  productVersion := r.val.productVersion
  asOfDate := r.val.asOfDate
  contentHash := r.val.contentHash
  revisionClaims := r.val.revisionClaims
  dataQualityStatus := r.val.dataQualityStatus
  freshness := r.val.freshness

/-- The references agree one to one, in whatever order they stand. -/
def SourcesAgree (sourceRefs others : List SourceRef) : Prop :=
  (sourceRefs.map SourceRef.evidence).Perm (others.map SourceRef.evidence)

instance (sourceRefs others : List SourceRef) : Decidable (SourcesAgree sourceRefs others) :=
  inferInstanceAs (Decidable (List.Perm _ _))

/-- The references agree one to one, in whatever order they and the causal inputs of
their claims stand. -/
def SourcesAgreeUnordered (sourceRefs others : List SourceRef) : Prop :=
  SourcesAgree (sourceRefs.map SourceRef.causalSorted) (others.map SourceRef.causalSorted)

instance (sourceRefs others : List SourceRef) :
    Decidable (SourcesAgreeUnordered sourceRefs others) :=
  inferInstanceAs (Decidable (SourcesAgree _ _))

/-- The days of the references are dates of the calendar. -/
def Dated (sourceRefs : List SourceRef) : Prop :=
  ∀ r ∈ sourceRefs, DateTime.DayInRange r.val.asOfDate.days

/-! ## Texts determine evidence -/

theorem isoformat_eq {a b : Date} (aInRange : DateTime.DayInRange a.days)
    (bInRange : DateTime.DayInRange b.days) (same : a.isoformat = b.isoformat) : a = b := by
  have texts : DateTime.dateText a.days = DateTime.dateText b.days :=
    String.ofList_injective same
  have read := DateTime.readDate_dateText aInRange []
  rw [texts, DateTime.readDate_dateText bInRange []] at read
  obtain ⟨days⟩ := a
  obtain ⟨others⟩ := b
  simp only [Option.some.injEq, Prod.mk.injEq, and_true] at read
  rw [read]

theorem optionalText_eq {a b : Option String}
    (same : Json.dump (optionalText a) = Json.dump (optionalText b)) : a = b := by
  have kinds := Json.kind_eq_of_dump same
  cases a with
  | none =>
      cases b with
      | none => rfl
      | some text => cases kinds
  | some text =>
      cases b with
      | none => cases kinds
      | some other => rw [Json.str_eq same]

theorem member_eq {α : Type} [PyEnum α] {a b : α}
    (same : Json.dump (.str (PyEnum.value a)) = Json.dump (.str (PyEnum.value b))) : a = b :=
  PyEnum.value_injective (Json.str_eq same)

def causalInputPayload (entry : CausalInputRevision) : Json :=
  .obj
    [("product_id", .str entry.val.productId),
     ("restatement_version", optionalText entry.val.restatementVersion),
     ("source_revision", .str entry.val.sourceRevision)]

theorem causalInputPayload_eq {a b : CausalInputRevision}
    (same : Json.dump (causalInputPayload a) = Json.dump (causalInputPayload b)) : a = b := by
  have values := Json.values_eq same (by simp) (by simp)
  simp only [List.map_cons, List.map_nil, List.cons.injEq, and_true] at values
  obtain ⟨product, restatement, revision⟩ := values
  obtain ⟨⟨productId, sourceRevision, restatementVersion⟩, _⟩ := a
  obtain ⟨⟨otherId, otherRevision, otherRestatement⟩, _⟩ := b
  cases Json.str_eq product
  cases optionalText_eq restatement
  cases Json.str_eq revision
  rfl

/-- Claims are told from the lack of claims. -/
theorem claimsPayload_ne (claims : SourceRevisionClaims) :
    Json.dump (sourceRevisionClaimsPayload none) ≠
      Json.dump (sourceRevisionClaimsPayload (some claims)) := by
  intro same
  obtain ⟨other, there, texts⟩ := Json.field_eq same List.mem_cons_self
  have posture : other = .str "owner_claimed" := by simpa using there
  rw [posture] at texts
  exact absurd (Json.str_eq texts) (by decide)

/-- The text of the claims determines them up to the order of their causal inputs. -/
theorem claimsPayload_eq {a b : Option SourceRevisionClaims}
    (same : Json.dump (sourceRevisionClaimsPayload a) =
      Json.dump (sourceRevisionClaimsPayload b)) :
    a.map SourceRevisionClaims.causalSorted = b.map SourceRevisionClaims.causalSorted := by
  cases a with
  | none =>
      cases b with
      | none => rfl
      | some claims =>
          exact absurd same (claimsPayload_ne claims)
  | some claims =>
      cases b with
      | none =>
          exact absurd same.symm (claimsPayload_ne claims)
      | some others =>
          have values := Json.values_eq same (by simp) (by simp)
          simp only [List.map_cons, List.map_nil, List.cons.injEq, and_true] at values
          obtain ⟨_, run, causal, methodology, policy, posture, restatement, snapshot, batch, cut,
            revision⟩ := values
          have inputs := List.map_injective_iff.mpr (fun _ _ => causalInputPayload_eq)
            (Json.items_eq causal)
          have member : claims.val.reconciliationPosture = others.val.reconciliationPosture :=
            member_eq posture
          rw [Option.map_some, Option.map_some, Option.some_inj]
          apply Checked.ext
          simp only [SourceRevisionClaims.causalSorted, SourceRevisionClaimsFields.mk.injEq]
          exact ⟨optionalText_eq snapshot, optionalText_eq revision, optionalText_eq restatement,
            optionalText_eq batch, optionalText_eq cut, optionalText_eq run,
            optionalText_eq methodology, optionalText_eq policy, inputs, member⟩

def sourcePosturePayload (r : SourceRef) : Json :=
  .obj
    [("data_quality_status", .str r.val.dataQualityStatus),
     ("freshness", .str r.val.freshness.value),
     ("product_id", .str r.val.productId),
     ("product_version", .str r.val.productVersion),
     ("source_system", .str r.val.sourceSystem.value)]

/-- The texts of a reference in the two lists of the hash determine its evidence up to
the order of the causal inputs. -/
theorem evidence_eq {a b : SourceRef} (aDated : DateTime.DayInRange a.val.asOfDate.days)
    (bDated : DateTime.DayInRange b.val.asOfDate.days)
    (posture : Json.dump (sourcePosturePayload a) = Json.dump (sourcePosturePayload b))
    (entry : Json.dump (sourceRevisionVectorEntry a) =
      Json.dump (sourceRevisionVectorEntry b)) :
    a.causalSorted.evidence = b.causalSorted.evidence := by
  have postures := Json.values_eq posture (by simp) (by simp)
  have entries := Json.values_eq entry (by simp) (by simp)
  simp only [List.map_cons, List.map_nil, List.cons.injEq, and_true] at postures entries
  obtain ⟨quality, freshness, _, _, _⟩ := postures
  obtain ⟨day, claims, content, product, version, system⟩ := entries
  have sameFreshness : a.val.freshness = b.val.freshness := member_eq freshness
  have sameSystem : a.val.sourceSystem = b.val.sourceSystem := member_eq system
  simp only [SourceRef.evidence, SourceRef.causalSorted, SourceEvidence.mk.injEq]
  exact ⟨sameSystem, Json.str_eq product, Json.str_eq version,
    isoformat_eq aDated bDated (Json.str_eq day), Json.str_eq content, claimsPayload_eq claims,
    Json.str_eq quality, sameFreshness⟩

theorem sourceRevisionVectorEntry_causalSorted (r : SourceRef) :
    sourceRevisionVectorEntry r.causalSorted = sourceRevisionVectorEntry r := by
  simp only [sourceRevisionVectorEntry, SourceRef.causalSorted,
    sourceRevisionClaimsPayload_causalSorted]

theorem payloads_of_evidence {a b : SourceRef}
    (same : a.causalSorted.evidence = b.causalSorted.evidence) :
    sourcePosturePayload a = sourcePosturePayload b ∧
      sourceRevisionVectorEntry a = sourceRevisionVectorEntry b := by
  rw [← sourceRevisionVectorEntry_causalSorted a, ← sourceRevisionVectorEntry_causalSorted b]
  simp only [SourceRef.evidence, SourceEvidence.mk.injEq] at same
  obtain ⟨system, product, version, day, content, claims, quality, freshness⟩ := same
  refine ⟨?_, ?_⟩
  · simp only [SourceRef.causalSorted] at system product version quality freshness
    simp only [sourcePosturePayload, system, product, version, quality, freshness]
  · simp only [sourceRevisionVectorEntry, system, product, version, day, content, claims]

/-! ## The order of the sources -/

/-- System, product and version, compared in this order. -/
abbrev SourceOrder := String ×ₗ String ×ₗ String

def SourceEvidence.order (e : SourceEvidence) : SourceOrder :=
  toLex (e.sourceSystem.value, toLex (e.productId, e.productVersion))

theorem sourceBefore_iff (a b : SourceRef) :
    sourceBefore a b = true ↔
      a.causalSorted.evidence.order ≤ b.causalSorted.evidence.order := by
  simp only [sourceBefore, SourceEvidence.order, SourceRef.evidence, SourceRef.causalSorted,
    Prod.Lex.toLex_le_toLex, Bool.or_eq_true, Bool.and_eq_true, decide_eq_true_eq]

theorem sortedSources_evidence (sourceRefs : List SourceRef) :
    (sortedSources sourceRefs).map (fun r => r.causalSorted.evidence) =
      Sql.orderBy SourceEvidence.order (sourceRefs.map fun r => r.causalSorted.evidence) :=
  List.map_insertionSort _ _ _ sourceRefs fun a _ b _ => sourceBefore_iff a b

/-- References of distinct identities stand at different places of the order. -/
theorem eq_of_order {sourceRefs : List SourceRef}
    (unique : (sourceRefs.map SourceRef.identity).Nodup) {r other : SourceRef}
    (listed : r ∈ sourceRefs) (listed' : other ∈ sourceRefs)
    (same : r.causalSorted.evidence.order = other.causalSorted.evidence.order) : r = other := by
  have texts := toLex_inj.mp same
  simp only [Prod.mk.injEq] at texts
  obtain ⟨system, rest⟩ := texts
  have rest := toLex_inj.mp rest
  simp only [Prod.mk.injEq] at rest
  have member : r.val.sourceSystem = other.val.sourceSystem := PyEnum.value_injective system
  have identities : r.identity = other.identity :=
    Prod.ext member (Prod.ext rest.1 rest.2)
  exact List.inj_on_of_nodup_map unique listed listed' identities

theorem keyedBy_order {sourceRefs : List SourceRef}
    (unique : (sourceRefs.map SourceRef.identity).Nodup) :
    Sql.KeyedBy SourceEvidence.order (sourceRefs.map fun r => r.causalSorted.evidence) := by
  intro a first b second same
  obtain ⟨r, listed, rfl⟩ := List.mem_map.mp first
  obtain ⟨other, listed', rfl⟩ := List.mem_map.mp second
  rw [eq_of_order unique listed listed' same]

/-- References with one evidence, of distinct identities, are sorted alike. -/
theorem sorted_of_agree {sourceRefs others : List SourceRef}
    (unique : (sourceRefs.map SourceRef.identity).Nodup)
    (agree : SourcesAgreeUnordered sourceRefs others) :
    (sortedSources sourceRefs).map (fun r => r.causalSorted.evidence) =
      (sortedSources others).map fun r => r.causalSorted.evidence := by
  rw [sortedSources_evidence, sortedSources_evidence]
  have perm : (others.map fun r => r.causalSorted.evidence).Perm
      (sourceRefs.map fun r => r.causalSorted.evidence) := by
    have stated := agree.symm
    rw [List.map_map, List.map_map] at stated
    exact stated
  exact Sql.orderBy_eq_of_perm (keyedBy_order unique) ((Sql.orderBy_perm _ _).trans perm)
    (Sql.orderBy_sorted _ _)

/-! ## Equal hashes -/

/-- A reading that an equal one tells is equal on lists too. -/
theorem map_eq_of_told {α β γ : Type} {f : α → β} {g : α → γ} {xs ys : List α}
    (same : xs.map f = ys.map f) (told : ∀ x ∈ xs, ∀ y ∈ ys, f x = f y → g x = g y) :
    xs.map g = ys.map g := by
  have sizes : xs.length = ys.length := by simpa using congrArg List.length same
  refine List.ext_getElem (by simpa using sizes) ?_
  intro index inside inside'
  simp only [List.length_map] at inside inside'
  have here := List.getElem_of_eq same (by simpa using inside)
  simp only [List.getElem_map] at here ⊢
  exact told _ (List.getElem_mem inside) _ (List.getElem_mem inside') here

theorem dated_sorted {sourceRefs : List SourceRef} (dated : Dated sourceRefs) {r : SourceRef}
    (listed : r ∈ sortedSources sourceRefs) : DateTime.DayInRange r.val.asOfDate.days :=
  dated r ((List.mem_insertionSort _).mp listed)

section
variable [Sha256]

theorem digestText_eq (collisionFree : Sha256.CollisionFree 64) {a b : Json}
    (same : digestText a = digestText b) : Json.dump a = Json.dump b := by
  have lists := congrArg String.toList same
  simp only [digestText, String.toList_append] at lists
  have digests := String.toList_inj.mp (List.append_cancel_left lists)
  exact Json.dump_eq_of_dumps (collisionFree digests)

theorem evidenceHashForSourceRefs_eq (sourceRefs : List SourceRef) :
    evidenceHashForSourceRefs sourceRefs = digestText (.obj
      [("source_posture", .arr ((sortedSources sourceRefs).map sourcePosturePayload)),
       ("source_revision_vector_digest", .str (sourceRevisionVectorDigest sourceRefs))]) :=
  rfl

/-- Equal hashes are hashes of references that agree one to one. -/
theorem agree_of_evidenceHash (collisionFree : Sha256.CollisionFree 64)
    {sourceRefs others : List SourceRef} (dated : Dated sourceRefs) (otherDated : Dated others)
    (same : evidenceHashForSourceRefs sourceRefs = evidenceHashForSourceRefs others) :
    SourcesAgreeUnordered sourceRefs others := by
  rw [evidenceHashForSourceRefs_eq, evidenceHashForSourceRefs_eq] at same
  have values := Json.values_eq (digestText_eq collisionFree same) (by simp) (by simp)
  simp only [List.map_cons, List.map_nil, List.cons.injEq, and_true] at values
  obtain ⟨posture, digest⟩ := values
  have postures := Json.items_eq posture
  have entries := Json.items_eq (digestText_eq collisionFree (Json.str_eq digest))
  have both : (sortedSources sourceRefs).map (fun r => (Json.dump (sourcePosturePayload r),
        Json.dump (sourceRevisionVectorEntry r))) =
      (sortedSources others).map fun r => (Json.dump (sourcePosturePayload r),
        Json.dump (sourceRevisionVectorEntry r)) := by
    have zipped := congrArg₂ List.zip postures entries
    rw [List.zip_map', List.zip_map'] at zipped
    exact zipped
  have evidence : (sortedSources sourceRefs).map (fun r => r.causalSorted.evidence) =
      (sortedSources others).map fun r => r.causalSorted.evidence := by
    refine map_eq_of_told both ?_
    intro a listed b listed' texts
    exact evidence_eq (dated_sorted dated listed) (dated_sorted otherDated listed')
      (congrArg Prod.fst texts) (congrArg Prod.snd texts)
  have own : (sortedSources sourceRefs).Perm sourceRefs := List.perm_insertionSort _ _
  have other : (sortedSources others).Perm others := List.perm_insertionSort _ _
  have perm := (own.map fun r => r.causalSorted.evidence).symm
  rw [evidence] at perm
  rw [SourcesAgreeUnordered, SourcesAgree, List.map_map, List.map_map]
  exact perm.trans (other.map _)

/-- References that agree one to one, in whatever order, have one hash. -/
theorem evidenceHash_of_agree {sourceRefs others : List SourceRef}
    (unique : (sourceRefs.map SourceRef.identity).Nodup)
    (agree : SourcesAgreeUnordered sourceRefs others) :
    evidenceHashForSourceRefs sourceRefs = evidenceHashForSourceRefs others := by
  have sorted := sorted_of_agree unique agree
  have postures : (sortedSources sourceRefs).map sourcePosturePayload =
      (sortedSources others).map sourcePosturePayload :=
    map_eq_of_told sorted fun a _ b _ same => (payloads_of_evidence same).1
  have entries : (sortedSources sourceRefs).map sourceRevisionVectorEntry =
      (sortedSources others).map sourceRevisionVectorEntry :=
    map_eq_of_told sorted fun a _ b _ same => (payloads_of_evidence same).2
  rw [evidenceHashForSourceRefs_eq, evidenceHashForSourceRefs_eq, sourceRevisionVectorDigest,
    sourceRevisionVectorDigest, postures, entries]

theorem evidenceHash_eq_iff (collisionFree : Sha256.CollisionFree 64)
    {sourceRefs others : List SourceRef} (unique : (sourceRefs.map SourceRef.identity).Nodup)
    (dated : Dated sourceRefs) (otherDated : Dated others) :
    evidenceHashForSourceRefs sourceRefs = evidenceHashForSourceRefs others ↔
      SourcesAgreeUnordered sourceRefs others :=
  ⟨agree_of_evidenceHash collisionFree dated otherDated, evidenceHash_of_agree unique⟩

/-- The hash does not look at the offsets of times. -/
theorem evidenceHashForSourceRefs_inUtc (sourceRefs : List SourceRef) :
    evidenceHashForSourceRefs (sourceRefs.map SourceRef.inUtc) =
      evidenceHashForSourceRefs sourceRefs := by
  rw [evidenceHashForSourceRefs_eq, evidenceHashForSourceRefs_eq,
    sourceRevisionVectorDigest_inUtc, sortedSources_inUtc, List.map_map]
  rfl

end

end LotusIdea
